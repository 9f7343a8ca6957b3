import ScriptMachine.Datum.Numeral
import ScriptMachine.Text.Identifier

/-!
# Tokens of the data notation

The notation in which programs are stored consists of brackets, commas, colons and atoms,
with blanks and comments between them.  `Token.ofChars?` splits a text into its tokens, or
refuses it if some part of it is not a token.

Texts stand between quotes, with escapes; or raw between `r#"` and `"#`, with as many
number signs as are needed.  What is written with a `b` before it consists of bytes.

Names are identifiers, and may begin with an underscore.  A name that is also a word for
something else is written with `r#` before it, and then begins with a letter.  After a
sign, a name begins with one of the letters of `inf` and `NaN`, and the sign belongs to it.
The mark of raw bytes may stand before a name as well, and does not count.  A name belongs
to the round or curly bracket that it stands before, if only blanks lie between them.

A carriage return stands before a line feed, in texts and raw bytes and in the comments
that are closed; it cannot stand in a comment to the end of the line.
-/

namespace ScriptMachine

/-- The pairs of brackets. -/
inductive Bracket where
  | round
  | square
  | curly
  deriving DecidableEq

/-- A datum without parts. -/
inductive Atom where
  | name (text : String)
  /-- A number in the form in which it was written. -/
  | number (form : List Char)
  | boolean (value : Bool)
  | text (content : String)
  | bytes (content : List UInt8)
  | character (value : Char)
  | byte (value : UInt8)
  deriving DecidableEq

/-- The parts into which a text is split. -/
inductive Token where
  /-- An opening bracket and the name that belongs to it. -/
  | opening (name : Option String) (bracket : Bracket)
  | closing (bracket : Bracket)
  | comma
  | colon
  | atom (value : Atom)
  deriving DecidableEq

namespace Token

/-! ## What stands between tokens -/

/-- Whether a character can stand between tokens. -/
def isSpace (char : Char) : Bool :=
  char = '\t' || char = '\n' || char = '\x0b' || char = '\x0c' || char = '\r' ||
    char = ' ' || char = '\u0085' || char = '\u200e' || char = '\u200f' ||
    char = '\u2028' || char = '\u2029'

/-- What follows a comment to the end of the line. -/
def afterLine? : List Char → Option (List Char)
  | [] => some []
  | '\n' :: rest => some rest
  | '\r' :: _ => none
  | _ :: rest => afterLine? rest

/-- What follows a comment that may contain others, `depth` of which are open beside
it. -/
def afterComment? (depth : Nat) : List Char → Option (List Char)
  | [] => none
  | '\r' :: '\n' :: rest => afterComment? depth rest
  | '\r' :: _ => none
  | '/' :: '*' :: rest => afterComment? (depth + 1) rest
  | '*' :: '/' :: rest =>
      match depth with
      | 0 => some rest
      | depth + 1 => afterComment? depth rest
  | _ :: rest => afterComment? depth rest

/-! ## Quoted text -/

/-- What is quoted: characters, or bytes written as characters. -/
inductive Quotation where
  | characters
  | bytes
  deriving DecidableEq

/-- The character for the letter of an escape. -/
def escapedChar? (letter : Char) : Option Char :=
  if letter = '"' ∨ letter = '\'' ∨ letter = '\\' then some letter
  else if letter = 'n' then some '\n'
  else if letter = 't' then some '\t'
  else if letter = 'r' then some '\r'
  else if letter = '0' then some '\x00'
  else none

/-- The character of two hexadecimal digits: ASCII in text, and any in bytes. -/
def hexChar? (quotation : Quotation) (high low : Char) : Option Char :=
  match Numeral.digitValue? high, Numeral.digitValue? low with
  | some high, some low =>
      let value := 16 * high + low
      if value < 128 ∨ quotation = .bytes then some (Char.ofNat value) else none
  | _, _ => none

/-- The character of a code point. -/
def charOfCodePoint? (value : UInt32) : Option Char :=
  if value.toNat.isValidChar then some (Char.ofNat value.toNat) else none

/-- The code point to which a hexadecimal digit is added on the right.  Code points are
words of 32 bits, and lose what is shifted out of them. -/
def extendCodePoint? (value : UInt32) (char : Char) : Option UInt32 :=
  if char = '_' then some value
  else (Numeral.digitValue? char).map fun digit => value <<< 4 ||| UInt32.ofNat digit

/-- Whether a character is one that can be quoted. -/
def isQuotable (quotation : Quotation) (char : Char) : Bool :=
  quotation = .characters || char.toNat < 128

/-- Where in a quoted text its reading is. -/
inductive QuotedPosition where
  /-- Between characters. -/
  | between
  /-- Behind a backslash at the end of a line, where blanks do not count. -/
  | lineGap
  /-- Between the braces of a code point. -/
  | codePoint (value : UInt32)

/-- A character in front of what was read after it. -/
def prepend (char : Char) (scanned : Option (List Char × List Char)) :
    Option (List Char × List Char) :=
  scanned.map fun (content, rest) => (char :: content, rest)

/-- Reads a quoted text to its closing quote, and returns what follows that. -/
def scanQuoted (quotation : Quotation) :
    QuotedPosition → List Char → Option (List Char × List Char)
  | _, [] => none
  | .codePoint value, char :: rest =>
      if char = '\x7d' then
        match charOfCodePoint? value with
        | some char => prepend char (scanQuoted quotation .between rest)
        | none => none
      else
        match extendCodePoint? value char with
        | some value => scanQuoted quotation (.codePoint value) rest
        | none => none
  | .lineGap, ' ' :: rest => scanQuoted quotation .lineGap rest
  | .lineGap, '\t' :: rest => scanQuoted quotation .lineGap rest
  | .lineGap, '\n' :: rest => scanQuoted quotation .lineGap rest
  | .lineGap, '\r' :: rest => scanQuoted quotation .lineGap rest
  | _, '"' :: rest => some ([], rest)
  | _, '\\' :: 'x' :: high :: low :: rest =>
      match hexChar? quotation high low with
      | some char => prepend char (scanQuoted quotation .between rest)
      | none => none
  | _, '\\' :: 'u' :: '\x7b' :: rest =>
      if quotation = .characters then scanQuoted quotation (.codePoint 0) rest else none
  | _, '\\' :: '\n' :: rest => scanQuoted quotation .lineGap rest
  | _, '\\' :: '\r' :: '\n' :: rest => scanQuoted quotation .lineGap rest
  | _, '\\' :: letter :: rest =>
      match escapedChar? letter with
      | some char => prepend char (scanQuoted quotation .between rest)
      | none => none
  | _, '\r' :: '\n' :: rest =>
      prepend '\r' (prepend '\n' (scanQuoted quotation .between rest))
  | _, char :: rest =>
      if char = '\\' ∨ ¬isQuotable quotation char then none
      else if char = '\r' ∧ quotation = .characters then none
      else prepend char (scanQuoted quotation .between rest)

/-- Reads a raw text to a quote that is followed by `signs` number signs, and returns what
follows them. -/
def scanRaw (quotation : Quotation) (signs : Nat) :
    List Char → Option (List Char × List Char)
  | [] => none
  | '\r' :: '\n' :: rest => prepend '\r' (prepend '\n' (scanRaw quotation signs rest))
  | char :: rest =>
      if char = '"' ∧ rest.take signs = List.replicate signs '#' then
        some ([], rest.drop signs)
      else if char = '\r' ∨ ¬isQuotable quotation char then none
      else prepend char (scanRaw quotation signs rest)

/-- Reads a raw text from its number signs on. -/
def scanRawFromSigns (quotation : Quotation) (text : List Char) :
    Option (List Char × List Char) :=
  match text.dropWhile (· = '#') with
  | '"' :: rest => scanRaw quotation (text.takeWhile (· = '#')).length rest
  | _ => none

/-- Whether a character can stand between single quotes as it is.  A quote can. -/
def isPlain (quotation : Quotation) (char : Char) : Bool :=
  char ≠ '\\' && char ≠ '\t' && char ≠ '\n' && char ≠ '\r' && isQuotable quotation char

/-- Reads a single quoted character to its closing quote.  A byte is a character of ASCII
here. -/
def scanChar (quotation : Quotation) : List Char → Option (Char × List Char)
  | '\\' :: 'x' :: high :: low :: '\'' :: rest =>
      (hexChar? .characters high low).map (·, rest)
  | '\\' :: 'u' :: '\x7b' :: text =>
      let digits := text.takeWhile (· ≠ '\x7d')
      match text.dropWhile (· ≠ '\x7d') with
      | '\x7d' :: '\'' :: rest =>
          if quotation = .characters then
            ((digits.foldlM extendCodePoint? 0).bind charOfCodePoint?).map (·, rest)
          else none
      | _ => none
  | '\\' :: letter :: '\'' :: rest => (escapedChar? letter).map (·, rest)
  | char :: '\'' :: rest =>
      if isPlain quotation char then some (char, rest) else none
  | _ => none

/-- The bytes that characters were written for. -/
def bytesOfChars (chars : List Char) : List UInt8 :=
  chars.map fun char => UInt8.ofNat char.toNat

/-! ## Numbers and names -/

/-- Splits the form of a number without sign off a text that begins with a digit. -/
def splitNumber (text : List Char) : List Char × List Char :=
  let inRadix :=
    match text with
    | '0' :: mark :: _ => (Numeral.digitBits? mark).isSome
    | _ => false
  if inRadix then
    let digits := (text.drop 2).takeWhile fun char => char.isAlphanum || char = '_'
    (text.take 2 ++ digits, text.drop (2 + digits.length))
  else
    let whole := text.takeWhile Numeral.isWholePart
    let afterWhole := text.drop whole.length
    let places :=
      match afterWhole with
      | '.' :: rest => '.' :: rest.takeWhile Char.isDigit
      | _ => []
    let afterPlaces := afterWhole.drop places.length
    let exponent :=
      match afterPlaces with
      | mark :: rest =>
          if mark = 'e' ∨ mark = 'E' then
            match rest with
            | '+' :: digits => mark :: '+' :: digits.takeWhile Char.isDigit
            | '-' :: digits => mark :: '-' :: digits.takeWhile Char.isDigit
            | digits => mark :: digits.takeWhile Char.isDigit
          else []
      | [] => []
    (whole ++ places ++ exponent, afterPlaces.drop exponent.length)

/-- A number as a token, if it is one. -/
def ofForm? (form rest : List Char) : Option (Token × List Char) :=
  (Numeral.ofForm? form).map fun _ => (.atom (.number form), rest)

/-- The atom for an identifier with the sign before it, if there is one. -/
def atomOfWord (sign word : List Char) : Atom :=
  if word = "inf".toList ∨ word = "NaN".toList then .number (sign ++ word)
  else if sign ++ word = "true".toList then .boolean true
  else if sign ++ word = "false".toList then .boolean false
  else .name (String.ofList (sign ++ word))

/-- Reads an identifier whose first character has been read. -/
def scanIdentifier (first : Char) (text : List Char) : List Char × List Char :=
  (first :: text.takeWhile isIdentifierContinue, text.dropWhile isIdentifierContinue)

/-- Reads an identifier without a sign. -/
def scanWord : List Char → Option (Token × List Char)
  | first :: text =>
      if first = '_' ∨ isIdentifierStart first then
        let (word, rest) := scanIdentifier first text
        some (.atom (atomOfWord [] word), rest)
      else none
  | [] => none

/-- Reads a number or name after its sign. -/
def scanSigned (sign : Char) : List Char → Option (Token × List Char)
  | first :: text =>
      if first = 'i' ∨ first = 'N' then
        let (word, rest) := scanIdentifier first text
        some (.atom (atomOfWord [sign] word), rest)
      else if first.isDigit then
        let (form, rest) := splitNumber (first :: text)
        ofForm? (sign :: form) rest
      else none
  | [] => none

/-! ## Tokens -/

/-- Reads the token that begins with a character, and returns what follows it. -/
def scan (first : Char) (text : List Char) : Option (Token × List Char) :=
  match first, text with
  | '(', rest => some (.opening none .round, rest)
  | ')', rest => some (.closing .round, rest)
  | '[', rest => some (.opening none .square, rest)
  | ']', rest => some (.closing .square, rest)
  | '\x7b', rest => some (.opening none .curly, rest)
  | '\x7d', rest => some (.closing .curly, rest)
  | ',', rest => some (.comma, rest)
  | ':', rest => some (.colon, rest)
  | '"', rest =>
      (scanQuoted .characters .between rest).map fun (content, rest) =>
        (.atom (.text (String.ofList content)), rest)
  | '\'', rest =>
      (scanChar .characters rest).map fun (char, rest) => (.atom (.character char), rest)
  | 'b', '"' :: rest =>
      (scanQuoted .bytes .between rest).map fun (content, rest) =>
        (.atom (.bytes (bytesOfChars content)), rest)
  | 'b', '\'' :: rest =>
      (scanChar .bytes rest).map fun (char, rest) =>
        (.atom (.byte (UInt8.ofNat char.toNat)), rest)
  | 'b', 'r' :: '#' :: rest =>
      (scanRawFromSigns .bytes ('#' :: rest)).map fun (content, rest) =>
        (.atom (.bytes (bytesOfChars content)), rest)
  | 'b', 'r' :: rest => scanWord rest
  | 'r', '#' :: rest =>
      match rest with
      | [] => none
      | second :: after =>
          if isIdentifierStart second then
            let (word, after) := scanIdentifier second after
            some (.atom (.name (String.ofList word)), after)
          else
            (scanRawFromSigns .characters ('#' :: rest)).map fun (content, rest) =>
              (.atom (.text (String.ofList content)), rest)
  | first, text =>
      if first = '+' ∨ first = '-' then scanSigned first text
      else if first.isDigit then
        let (form, rest) := splitNumber (first :: text)
        ofForm? form rest
      else scanWord (first :: text)

/-- Gives a name the bracket before which it stands. -/
def joinBracket : Token × List Char → Token × List Char
  | (.atom (.name name), text) =>
      match text.dropWhile isSpace with
      | '(' :: rest => (.opening (some name) .round, rest)
      | '\x7b' :: rest => (.opening (some name) .curly, rest)
      | _ => (.atom (.name name), text)
  | scanned => scanned

/-- Splits a text of at most `bound` characters into tokens. -/
def ofCharsWithin? : (bound : Nat) → List Char → Option (List Token)
  | _, [] => some []
  | 0, _ :: _ => none
  | bound + 1, first :: text =>
      if isSpace first then ofCharsWithin? bound text
      else
        match first, text with
        | '/', '/' :: rest => (afterLine? rest).bind (ofCharsWithin? bound)
        | '/', '*' :: rest => (afterComment? 0 rest).bind (ofCharsWithin? bound)
        | _, _ =>
            match (scan first text).map joinBracket with
            | none => none
            | some (token, rest) => (ofCharsWithin? bound rest).map (token :: ·)

/-- Splits a text into tokens. -/
def ofChars? (text : List Char) : Option (List Token) :=
  ofCharsWithin? text.length text

end Token

end ScriptMachine
