import ScriptMachine.Datum.Layout
import ScriptMachine.Storage.Schema

/-!
# Scanning atoms

The atoms that stand in written data are scanned as what they are: names that consist of letters,
numbers in decimal notation, and texts with any characters.  An atom is scanned to its end because
of what stands behind it, which is a separator or a closing bracket on a line of its own; this
does not continue a name or a number, and is no bracket to which a name could belong.
-/

namespace ScriptMachine

namespace Token

/-! ## The ends of atoms -/

section Splitting

variable {test : Char → Bool} {chars : List Char} (text : List Char)

theorem takeWhile_of_stops (all : ∀ char ∈ chars, test char = true)
    (stops : ∀ char ∈ text.head?, test char = false) : (chars ++ text).takeWhile test = chars := by
  rw [List.takeWhile_append_of_pos all]
  cases text with
  | nil => exact List.append_nil chars
  | cons first rest =>
      have fails := stops first rfl
      rw [List.takeWhile_cons_of_neg (by simp [fails]), List.append_nil]

theorem dropWhile_of_stops (all : ∀ char ∈ chars, test char = true)
    (stops : ∀ char ∈ text.head?, test char = false) : (chars ++ text).dropWhile test = text := by
  rw [List.dropWhile_append_of_pos all]
  cases text with
  | nil => rfl
  | cons first rest =>
      have fails := stops first rfl
      rw [List.dropWhile_cons_of_neg (by simp [fails])]

end Splitting

/-- Whether a character is a closing bracket. -/
def isClosing (char : Char) : Bool := char = ')' || char = ']' || char = '\x7d'

/-- What can stand behind an atom in written data. -/
inductive Ends : List Char → Prop where
  | finish : Ends []
  | comma (text : List Char) : Ends (',' :: text)
  | colon (text : List Char) : Ends (':' :: text)
  | closing (depth : Nat) {bracket : Char} (closes : isClosing bracket = true)
      (text : List Char) : Ends (Datum.newLine depth ++ bracket :: text)

/-- Whether a test is passed by no character with which an end begins. -/
def stopsAtEnds (test : Char → Bool) : Bool := !test ',' && !test ':' && !test '\n'

theorem isSpace_newLine {depth : Nat} {char : Char} (member : char ∈ Datum.newLine depth) :
    isSpace char = true := by
  rcases List.mem_cons.mp member with rfl | member
  · rfl
  · rw [List.eq_of_mem_replicate member]
    rfl

namespace Ends

variable {text : List Char}

theorem head_cases (ends : Ends text) :
    text = [] ∨ ∃ first rest, text = first :: rest ∧ (first = ',' ∨ first = ':' ∨ first = '\n') := by
  cases ends with
  | finish => exact .inl rfl
  | comma => exact .inr ⟨_, _, rfl, .inl rfl⟩
  | colon => exact .inr ⟨_, _, rfl, .inr (.inl rfl)⟩
  | closing => exact .inr ⟨_, _, rfl, .inr (.inr rfl)⟩

variable {test : Char → Bool}

/-- A test that stops at ends fails where an end begins. -/
theorem stops (ends : Ends text) (stops : stopsAtEnds test = true) :
    ∀ char ∈ text.head?, test char = false := by
  simp only [stopsAtEnds, Bool.and_eq_true, Bool.not_eq_true'] at stops
  obtain rfl | ⟨first, rest, rfl, rfl | rfl | rfl⟩ := ends.head_cases <;> simp [stops]

/-- Behind the blanks there is no bracket that a name could belong to. -/
theorem joinBracket_eq (ends : Ends text) (value : Atom) :
    joinBracket (.atom value, text) = (.atom value, text) := by
  cases value with
  | name name =>
      have unopened : ∀ rest, text.dropWhile isSpace ≠ '(' :: rest ∧
          text.dropWhile isSpace ≠ '\x7b' :: rest := by
        intro rest
        cases ends with
        | finish => simp
        | comma text => simp [List.dropWhile, isSpace]
        | colon text => simp [List.dropWhile, isSpace]
        | @closing depth bracket closes text =>
            rw [List.dropWhile_append_of_pos fun _ => isSpace_newLine]
            simp only [isClosing, Bool.or_eq_true, decide_eq_true_eq] at closes
            obtain (rfl | rfl) | rfl := closes <;> simp [List.dropWhile, isSpace]
      simp only [joinBracket]
      split
      · exact absurd ‹_› (unopened _).1
      · exact absurd ‹_› (unopened _).2
      · rfl
  | _ => rfl

end Ends

/-- What scanning gives at the first of some characters that a text follows.  There is one, and it
is neither blank nor the beginning of a comment. -/
def ScansTo (chars text : List Char) (scanned : Option (Token × List Char)) : Prop :=
  ∃ first rest, chars = first :: rest ∧ isSpace first = false ∧ first ≠ '/' ∧
    scan first (rest ++ text) = scanned

/-- Before every end, the characters are scanned as an atom. -/
def Scans (chars : List Char) (value : Atom) : Prop :=
  ∀ text, Ends text → ScansTo chars text (some (.atom value, text))

/-! ## Names -/

/-- The letters are those of two ranges. -/
theorem bounds_of_isAlpha {char : Char} (isAlpha : char.isAlpha = true) :
    0x41 ≤ char.toNat ∧ char.toNat ≤ 0x5A ∨ 0x61 ≤ char.toNat ∧ char.toNat ≤ 0x7A := by
  rcases Bool.or_eq_true_iff.mp isAlpha with upper | lower
  · obtain ⟨least, greatest⟩ : 'A'.val ≤ char.val ∧ char.val ≤ 'Z'.val := of_decide_eq_true upper
    exact .inl ⟨UInt32.le_iff_toNat_le.mp least, UInt32.le_iff_toNat_le.mp greatest⟩
  · obtain ⟨least, greatest⟩ := Bool.and_eq_true_iff.mp lower
    exact .inr ⟨UInt32.le_iff_toNat_le.mp (of_decide_eq_true least),
      UInt32.le_iff_toNat_le.mp (of_decide_eq_true greatest)⟩

theorem isIdentifier_of_isAlpha {char : Char} (isAlpha : char.isAlpha = true) :
    isIdentifierStart char = true ∧ isIdentifierContinue char = true := by
  obtain ⟨others, start_eq⟩ :
      ∃ others, identifierStartRanges = (0x41, 0x5A) :: (0x61, 0x7A) :: others := ⟨_, rfl⟩
  obtain ⟨others, continue_eq⟩ : ∃ others, identifierContinueRanges =
      (0x30, 0x39) :: (0x41, 0x5A) :: (0x5F, 0x5F) :: (0x61, 0x7A) :: others := ⟨_, rfl⟩
  simp only [isIdentifierStart, isIdentifierContinue, CharRanges.contains, start_eq, continue_eq,
    List.any_cons, Bool.or_eq_true, Bool.and_eq_true, decide_eq_true_eq]
  constructor <;> rcases bounds_of_isAlpha isAlpha with upper | lower <;> simp_all

/-- A letter begins a name, unless it is one that can begin something else. -/
theorem scan_of_isAlpha {first : Char} (isAlpha : first.isAlpha = true) (not_bytes : first ≠ 'b')
    (not_raw : first ≠ 'r') (text : List Char) : scan first text = scanWord (first :: text) := by
  have not_sign : ¬(first = '+' ∨ first = '-') := by
    rintro (rfl | rfl) <;> contradiction
  have not_digit : first.isDigit = false := by
    have bounds := bounds_of_isAlpha isAlpha
    simp only [Char.isDigit, Bool.and_eq_false_iff, decide_eq_false_iff_not, UInt32.le_iff_toNat_le]
    simp
    omega
  unfold scan
  split <;> first | contradiction | simp [not_sign, not_digit]

theorem isSpace_of_isAlphanum {char : Char} (isAlphanum : char.isAlphanum = true) :
    isSpace char = false := by
  cases spaced : isSpace char with
  | false => rfl
  | true =>
      simp only [isSpace, Bool.or_eq_true, decide_eq_true_eq, or_assoc] at spaced
      rcases spaced with rfl | rfl | rfl | rfl | rfl | rfl | rfl | rfl | rfl | rfl | rfl <;>
        contradiction

/-- An identifier is scanned to the first character that does not continue it. -/
theorem scanIdentifier_eq (first : Char) (rest : List Char) {text : List Char}
    (continues : ∀ char ∈ rest, isIdentifierContinue char = true)
    (stops : ∀ char ∈ text.head?, isIdentifierContinue char = false) :
    scanIdentifier first (rest ++ text) = (first :: rest, text) := by
  rw [scanIdentifier, takeWhile_of_stops text continues stops,
    dropWhile_of_stops text continues stops]

theorem atomOfWord_eq_name {name : String} (not_reserved : name ∉ reservedWords) :
    atomOfWord [] name.toList = .name name := by
  simp only [reservedWords, List.mem_cons, List.not_mem_nil, or_false, not_or] at not_reserved
  obtain ⟨not_infinite, not_nan, not_true, not_false⟩ := not_reserved
  simp only [atomOfWord, String.toList_inj, not_infinite, not_nan, not_true, not_false, or_self,
    if_false, List.nil_append, String.ofList_toList]

/-- A name is scanned to the first character that does not continue it. -/
theorem scansTo_name {name : String} (plain : isPlainName name = true) (text : List Char)
    (stops : ∀ char ∈ text.head?, isIdentifierContinue char = false) :
    ScansTo name.toList text (some (.atom (.name name), text)) := by
  unfold isPlainName at plain
  split at plain
  · contradiction
  · rename_i first rest name_eq
    simp only [Bool.and_eq_true, List.all_eq_true, bne_iff_ne, ne_eq, Bool.not_eq_true',
      List.contains_eq_mem, decide_eq_false_iff_not] at plain
    obtain ⟨⟨⟨⟨isAlpha, all⟩, not_bytes⟩, not_raw⟩, not_reserved⟩ := plain
    have not_space : isSpace first = false :=
      isSpace_of_isAlphanum (by simp only [Char.isAlphanum, isAlpha, Bool.true_or])
    refine ⟨first, rest, name_eq, not_space, ?_, ?_⟩
    · rintro rfl
      contradiction
    · have continues : ∀ char ∈ rest, isIdentifierContinue char = true :=
        fun char member => (isIdentifier_of_isAlpha (all char member)).2
      rw [scan_of_isAlpha isAlpha not_bytes not_raw]
      simp only [scanWord, (isIdentifier_of_isAlpha isAlpha).1, or_true, if_true,
        scanIdentifier_eq first rest continues stops, ← name_eq, atomOfWord_eq_name not_reserved]

/-- A name is scanned as one before every end. -/
theorem scans_name {name : String} (plain : isPlainName name = true) :
    Scans name.toList (.name name) :=
  fun text ends => scansTo_name plain text (ends.stops (by decide +kernel))

/-! ## Texts -/

theorem digitValue?_digitChar : ∀ digit < 16,
    Numeral.digitValue? (Nat.digitChar digit) = some digit := by
  decide

/-- What a character is written as is read as the character. -/
theorem scanQuoted_writtenChar (char : Char) (text : List Char) :
    scanQuoted .characters .between (Datum.writtenChar char ++ text) =
      prepend char (scanQuoted .characters .between text) := by
  unfold Datum.writtenChar
  -- First come the characters that have a letter of their own behind the backslash.
  iterate 6
    split
    · subst_vars
      simp [scanQuoted, escapedChar?]
  split
  · rename_i ascii
    have hexChar_eq : hexChar? .characters (Nat.digitChar (char.toNat / 16))
        (Nat.digitChar (char.toNat % 16)) = some char := by
      have value_eq : 16 * (char.toNat / 16) + char.toNat % 16 = char.toNat := Nat.div_add_mod _ _
      have value_lt : char.toNat < 128 := by omega
      simp only [hexChar?, digitValue?_digitChar _ (by omega : char.toNat / 16 < 16),
        digitValue?_digitChar _ (by omega : char.toNat % 16 < 16), value_eq, value_lt, true_or,
        if_true, Char.ofNat_toNat]
    simp [scanQuoted, hexChar_eq]
  · rename_i not_return _ not_backslash _
    simp [scanQuoted, isQuotable, not_return, not_backslash]

/-- What a text is written as is read as the text. -/
theorem scanQuoted_written (content text : List Char) :
    scanQuoted .characters .between (content.flatMap Datum.writtenChar ++ '"' :: text) =
      some (content, text) := by
  induction content with
  | nil => simp [scanQuoted]
  | cons char rest ih =>
      rw [List.flatMap_cons, List.append_assoc, scanQuoted_writtenChar, ih]
      rfl

/-- Whatever its characters are, a text is scanned as one. -/
theorem scans_text (content : String) : Scans (Datum.writtenText content) (.text content) := by
  intro text ends
  refine ⟨'"', _, rfl, by decide, by decide, ?_⟩
  have scanned := scanQuoted_written content.toList text
  simp only [List.append_assoc, List.singleton_append, scan, scanned, Option.map_some,
    String.ofList_toList]

/-! ## Numbers -/

/-- Decimal notation without a sign: digits, and a point with digits after it if there is one. -/
inductive IsDecimal : List Char → Prop where
  | whole {digits : List Char} (nonempty : digits ≠ [])
      (all : ∀ char ∈ digits, char.isDigit = true) : IsDecimal digits
  | pointed {digits places : List Char} (nonempty : digits ≠ [])
      (all : ∀ char ∈ digits, char.isDigit = true)
      (allPlaces : ∀ char ∈ places, char.isDigit = true) : IsDecimal (digits ++ '.' :: places)

theorem digitBits?_of_isDigit {char : Char} (isDigit : char.isDigit = true) :
    Numeral.digitBits? char = none := by
  unfold Numeral.digitBits?
  rw [if_neg, if_neg, if_neg] <;> rintro (rfl | rfl) <;> contradiction

section Numbers

variable {digits places text : List Char}

/-- There is no mark of a radix among digits and what can follow them. -/
theorem not_inRadix (nonempty : digits ≠ []) (all : ∀ char ∈ digits, char.isDigit = true)
    (after : List Char)
    (stops : ∀ char ∈ after.head?, (Numeral.digitBits? char).isSome = false) :
    ¬(match digits ++ after with
      | '0' :: mark :: _ => (Numeral.digitBits? mark).isSome
      | _ => false) = true := by
  rw [Bool.not_eq_true]
  split
  · rename_i mark rest text_eq
    cases digits with
    | nil => contradiction
    | cons first others =>
        cases others with
        | nil =>
            apply stops mark
            simp only [List.cons_append, List.nil_append, List.cons.injEq] at text_eq
            simp [text_eq.2]
        | cons second others =>
            simp only [List.cons_append, List.cons.injEq] at text_eq
            have isDigit := all second (by simp)
            rw [← text_eq.2.1, digitBits?_of_isDigit isDigit]
            rfl
  · rfl

theorem isWholePart_of_isDigit (all : ∀ char ∈ digits, char.isDigit = true) :
    ∀ char ∈ digits, Numeral.isWholePart char = true := by
  intro char member
  simp [Numeral.isWholePart, all char member]

/-- Digits are split off before every end. -/
theorem splitNumber_whole (nonempty : digits ≠ []) (all : ∀ char ∈ digits, char.isDigit = true)
    (ends : Ends text) : splitNumber (digits ++ text) = (digits, text) := by
  have unmarked := not_inRadix nonempty all text (ends.stops (by decide))
  have whole_eq := takeWhile_of_stops text (isWholePart_of_isDigit all) (ends.stops (by decide))
  apply (if_neg unmarked).trans
  simp only [whole_eq, List.drop_left]
  obtain rfl | ⟨first, rest, rfl, rfl | rfl | rfl⟩ := ends.head_cases <;> simp

/-- Digits with a point among them are split off before every end. -/
theorem splitNumber_pointed (nonempty : digits ≠ []) (all : ∀ char ∈ digits, char.isDigit = true)
    (allPlaces : ∀ char ∈ places, char.isDigit = true) (ends : Ends text) :
    splitNumber (digits ++ '.' :: (places ++ text)) = (digits ++ '.' :: places, text) := by
  have unmarked := not_inRadix nonempty all ('.' :: (places ++ text))
    (by simp [Numeral.digitBits?])
  have whole_eq := takeWhile_of_stops ('.' :: (places ++ text))
    (isWholePart_of_isDigit all) (by simp [Numeral.isWholePart])
  have places_eq := takeWhile_of_stops text allPlaces (ends.stops (by decide))
  apply (if_neg unmarked).trans
  simp only [whole_eq, places_eq, List.drop_left, List.length_cons, List.drop_succ_cons]
  obtain rfl | ⟨first, rest, rfl, rfl | rfl | rfl⟩ := ends.head_cases <;> simp

theorem scan_of_isDigit {first : Char} (isDigit : first.isDigit = true) (text : List Char) :
    scan first text = ofForm? (splitNumber (first :: text)).1 (splitNumber (first :: text)).2 := by
  have not_sign : ¬(first = '+' ∨ first = '-') := by
    rintro (rfl | rfl) <;> contradiction
  unfold scan
  split <;> first | contradiction | simp [not_sign, isDigit]

/-- A decimal form begins with a digit, and is split off before every end. -/
theorem IsDecimal.splits {form : List Char} (decimal : IsDecimal form) :
    ∃ first rest, form = first :: rest ∧ first.isDigit = true ∧
      ∀ text, Ends text → splitNumber (first :: (rest ++ text)) = (form, text) := by
  cases decimal with
  | whole nonempty all =>
      obtain ⟨first, rest, rfl⟩ := List.exists_cons_of_ne_nil nonempty
      exact ⟨first, rest, rfl, all first List.mem_cons_self,
        fun _ ends => splitNumber_whole nonempty all ends⟩
  | @pointed digits places nonempty all allPlaces =>
      obtain ⟨first, rest, rfl⟩ := List.exists_cons_of_ne_nil nonempty
      refine ⟨first, rest ++ '.' :: places, rfl, all first List.mem_cons_self, ?_⟩
      intro text ends
      have split_eq := splitNumber_pointed nonempty all allPlaces ends
      rw [List.append_assoc]
      exact split_eq

/-- A decimal form with a minus before it if it is `negative`. -/
def withSign (negative : Bool) (form : List Char) : List Char :=
  if negative then '-' :: form else form

/-- A number in decimal notation is split off before every end, and is then the form of the
token. -/
theorem scansTo_decimal {form : List Char} (decimal : IsDecimal form) (negative : Bool)
    (ends : Ends text) :
    ScansTo (withSign negative form) text (ofForm? (withSign negative form) text) := by
  obtain ⟨first, rest, form_eq, isDigit, split_eq⟩ := decimal.splits
  cases negative with
  | true =>
      refine ⟨'-', form, rfl, by decide, by decide, ?_⟩
      have not_word : ¬(first = 'i' ∨ first = 'N') := by
        rintro (rfl | rfl) <;> contradiction
      calc scan '-' (form ++ text)
          = scanSigned '-' (first :: (rest ++ text)) := by
            rw [form_eq]
            rfl
        _ = ofForm? ('-' :: form) text := by
            simp only [scanSigned, not_word, isDigit, split_eq text ends, if_true, if_false]
  | false =>
      have not_space : isSpace first = false :=
        isSpace_of_isAlphanum (by simp only [Char.isAlphanum, isDigit, Bool.or_true])
      refine ⟨first, rest, form_eq, not_space, ?_, ?_⟩
      · rintro rfl
        contradiction
      · rw [scan_of_isDigit isDigit, split_eq text ends]
        rfl

/-- A number in decimal notation is scanned as one before every end, if it is within the range of
numbers. -/
theorem scans_decimal {form : List Char} (decimal : IsDecimal form) (negative : Bool)
    (inRange : (Numeral.ofForm? (withSign negative form)).isSome = true) :
    Scans (withSign negative form) (.number (withSign negative form)) := by
  obtain ⟨numeral, numeral_eq⟩ := Option.isSome_iff_exists.mp inRange
  intro text ends
  have scans := scansTo_decimal decimal negative ends
  rwa [ofForm?, numeral_eq] at scans

/-- The words for numbers are scanned as numbers before every end. -/
theorem scans_numberWords {form : List Char}
    (isWord : form = "inf".toList ∨ form = "-inf".toList ∨ form = "NaN".toList) :
    Scans form (.number form) := by
  intro text ends
  have stops : ∀ char ∈ text.head?, isIdentifierContinue char = false :=
    ends.stops (by decide +kernel)
  have identifier_eq (first : Char) {second third : Char} (isAlpha : second.isAlpha = true)
      (isAlpha' : third.isAlpha = true) :
      scanIdentifier first (second :: third :: text) = ([first, second, third], text) := by
    apply scanIdentifier_eq first [second, third] _ stops
    simp [(isIdentifier_of_isAlpha isAlpha).2, (isIdentifier_of_isAlpha isAlpha').2]
  rcases isWord with rfl | rfl | rfl
  · refine ⟨'i', ['n', 'f'], rfl, by decide, by decide, ?_⟩
    rw [scan_of_isAlpha (by decide) (by decide) (by decide)]
    have starts : isIdentifierStart 'i' = true := (isIdentifier_of_isAlpha (by decide)).1
    simp [scanWord, starts, identifier_eq 'i' (by decide : 'n'.isAlpha) (by decide : 'f'.isAlpha),
      atomOfWord]
  · refine ⟨'-', ['i', 'n', 'f'], rfl, by decide, by decide, ?_⟩
    change scanSigned '-' ('i' :: 'n' :: 'f' :: text) = _
    simp [scanSigned, identifier_eq 'i' (by decide : 'n'.isAlpha) (by decide : 'f'.isAlpha),
      atomOfWord]
  · refine ⟨'N', ['a', 'N'], rfl, by decide, by decide, ?_⟩
    rw [scan_of_isAlpha (by decide) (by decide) (by decide)]
    have starts : isIdentifierStart 'N' = true := (isIdentifier_of_isAlpha (by decide)).1
    simp [scanWord, starts, identifier_eq 'N' (by decide : 'a'.isAlpha) (by decide : 'N'.isAlpha),
      atomOfWord]

end Numbers

end Token

end ScriptMachine
