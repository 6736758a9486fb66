import Codegen.Text.Quoted
import Codegen.Value.Calendar

/-!
Misuse of values: operations on values that do not fit them, each with the types that it was tried
on. `Misuse.text` gives the wording.
-/

namespace Codegen

inductive MisuseKind
  | type
  | value
  | overflow
  | zeroDivision
  | memory
  | key
  deriving Repr, DecidableEq, Inhabited

inductive Division
  | quotient
  | floor
  | remainder
  deriving Repr, DecidableEq, Inhabited

inductive FormatFault
  | tooFewValues
  | unusedValues
  | notMapping
  | indexType (owner : String)
  | unknownKey (key : String)
  | incompleteKey
  | incomplete
  | widthType
  | widthTooBig
  | widthRange
  | precisionTooBig
  | precisionRange
  | precisionTooLarge
  | unknownForm (form : Char) (index : Nat)
  | notNumber (form : Char) (type : String)
  | notInteger (form : Char) (type : String)
  | notReal (type : String)
  | notCharacter
  | characterRange
  | infinite
  | undefinedNumber
  deriving Repr, DecidableEq, Inhabited

namespace FormatFault

def kind : FormatFault → MisuseKind
  | tooFewValues | unusedValues | notMapping | indexType _ | widthType | notNumber .. | notInteger ..
  | notReal _ | notCharacter => .type
  | incompleteKey | incomplete | widthTooBig | precisionTooBig | unknownForm .. | undefinedNumber =>
    .value
  | characterRange | infinite | widthRange | precisionRange | precisionTooLarge => .overflow
  | unknownKey _ => .key

def text : FormatFault → String
  | tooFewValues => "not enough arguments for format string"
  | unusedValues => "not all arguments converted during string formatting"
  | notMapping => "format requires a mapping"
  | indexType owner => owner ++ " indices must be integers or slices, not str"
  | unknownKey key => Text.quoted key
  | incompleteKey => "incomplete format key"
  | incomplete => "incomplete format"
  | widthType => "* wants int"
  | widthTooBig => "width too big"
  | widthRange => "Python int too large to convert to C ssize_t"
  | precisionTooBig => "precision too big"
  | precisionRange => "Python int too large to convert to C int"
  | precisionTooLarge => "precision too large"
  | unknownForm form index =>
    let shown := if 31 ≤ form.toNat ∧ form.toNat ≤ 126 then form else '?'
    "unsupported format character '" ++ String.singleton shown ++ "' (0x"
      ++ String.ofList (Text.hexadecimal 1 form.toNat) ++ s!") at index {index}"
  | notNumber form type =>
    "%" ++ String.singleton form ++ " format: a real number is required, not " ++ type
  | notInteger form type =>
    "%" ++ String.singleton form ++ " format: an integer is required, not " ++ type
  | notReal type => "must be real number, not " ++ type
  | notCharacter => "%c requires int or char"
  | characterRange => "%c arg not in range(0x110000)"
  | infinite => "cannot convert float infinity to integer"
  | undefinedNumber => "cannot convert float NaN to integer"

end FormatFault

inductive ArgumentFault
  | tooMany (least most given : Nat)
  | missing (names : List String)
  | unexpected (name : String)
  | repeated (name : String)
  /-- A call of a function that takes one value and knows no names. -/
  | notOne (given : Nat)
  | named
  deriving Repr, DecidableEq, Inhabited

namespace ArgumentFault

def plural (n : Nat) (noun : String) : String := if n = 1 then noun else noun ++ "s"

/-- Names in a row, with `and` before the last. -/
def enumerated : List String → String
  | [] => ""
  | [a] => a
  | [a, b] => a ++ " and " ++ b
  | names => Text.join ", " names.dropLast ++ ", and " ++ names.getLastD ""

def text (function : String) : ArgumentFault → String
  | tooMany least most given =>
    let range := if least = most then s!"{most}" else s!"from {least} to {most}"
    let noun := plural most "positional argument"
    let verb := if given = 1 then "was" else "were"
    s!"{function}() takes {range} {noun} but {given} {verb} given"
  | missing names =>
    s!"{function}() missing {names.length} required "
      ++ plural names.length "positional argument" ++ ": " ++ enumerated (names.map Text.quoted)
  | unexpected name => s!"{function}() got an unexpected keyword argument '{name}'"
  | repeated name => s!"{function}() got multiple values for argument '{name}'"
  | notOne given => s!"{function}() takes exactly one argument ({given} given)"
  | named => s!"{function}() takes no keyword arguments"

end ArgumentFault

inductive Misuse
  | operands (sign left right : String)
  | concatenation (whole part : String)
  | repetition (count : String)
  | operand (sign type : String)
  | order (sign left right : String)
  | zoneOrder
  | dateOrder (left right : String)
  | container (type : String)
  | partOfText (type : String)
  | partOfBytes (type : String)
  | byteRange
  | items (type : String)
  | reversal (type : String)
  | length (type : String)
  | call (type : String)
  | unpacking (type : String)
  | tooFewItems (expected given : Nat)
  | tooManyItems (expected : Nat)
  | key (type : String)
  | zeroDivisor (division : Division) (isWhole : Bool)
  | zeroBase
  | integerTooLarge
  | quotientTooLarge
  | powerTooLarge
  | countTooLarge
  | textTooLong
  | bytesTooLong
  | noMemory
  | wordTooLarge
  | tooManyDigits (given : Option Nat)
  | integerSpelling (base : Nat) (text : String)
  | realSpelling (text : String)
  | calendar (fault : CalendarFault)
  | codePoint (code : Nat)
  | integer (type : String)
  | stripSet
  | levelType
  | subscript (type : String)
  | entry (index : String)
  | arguments (function : String) (fault : ArgumentFault)
  | format (fault : FormatFault)
  deriving Repr, DecidableEq, Inhabited

namespace Misuse

def wordLimit : Nat := 0x80000000

def countLimit : Nat := 0x8000000000000000

def kind : Misuse → MisuseKind
  | tooFewItems .. | tooManyItems _ | byteRange | tooManyDigits _ | integerSpelling .. | realSpelling _
  | calendar _ => .value
  | zeroDivisor .. | zeroBase => .zeroDivision
  | integerTooLarge | quotientTooLarge | powerTooLarge | countTooLarge | textTooLong
  | bytesTooLong | wordTooLarge => .overflow
  | noMemory => .memory
  | codePoint code => if code < wordLimit then .value else .overflow
  | entry _ => .key
  | format fault => fault.kind
  | _ => .type

def spellingLimit : Nat := 200

def text : Misuse → String
  | operands sign left right =>
    s!"unsupported operand type(s) for {sign}: '{left}' and '{right}'"
  | concatenation "bytes" part => s!"can't concat {part} to bytes"
  | concatenation whole part => s!"can only concatenate {whole} (not \"{part}\") to {whole}"
  | repetition count => s!"can't multiply sequence by non-int of type '{count}'"
  | operand sign type => s!"bad operand type for unary {sign}: '{type}'"
  | order sign left right =>
    s!"'{sign}' not supported between instances of '{left}' and '{right}'"
  | zoneOrder => "can't compare offset-naive and offset-aware datetimes"
  | dateOrder left right => s!"can't compare {left} to {right}"
  | container type => s!"argument of type '{type}' is not iterable"
  | partOfText type => s!"'in <string>' requires string as left operand, not {type}"
  | partOfBytes type => s!"a bytes-like object is required, not '{type}'"
  | byteRange => "byte must be in range(0, 256)"
  | items type => s!"'{type}' object is not iterable"
  | reversal type => s!"'{type}' object is not reversible"
  | length type => s!"object of type '{type}' has no len()"
  | call type => s!"'{type}' object is not callable"
  | unpacking type => s!"cannot unpack non-iterable {type} object"
  | tooFewItems expected given => s!"not enough values to unpack (expected {expected}, got {given})"
  | tooManyItems expected => s!"too many values to unpack (expected {expected})"
  | key type => s!"unhashable type: '{type}'"
  | zeroDivisor .quotient isWhole => if isWhole then "division by zero" else "float division by zero"
  | zeroDivisor .floor isWhole =>
    if isWhole then "integer division or modulo by zero" else "float floor division by zero"
  | zeroDivisor .remainder isWhole => if isWhole then "integer modulo by zero" else "float modulo"
  | zeroBase => "0.0 cannot be raised to a negative power"
  | integerTooLarge => "int too large to convert to float"
  | quotientTooLarge => "integer division result too large for a float"
  | powerTooLarge => "(34, 'Numerical result out of range')"
  | countTooLarge => "cannot fit 'int' into an index-sized integer"
  | textTooLong => "repeated string is too long"
  | bytesTooLong => "repeated bytes are too long"
  | noMemory => ""
  | wordTooLarge => "Python int too large to convert to C ssize_t"
  | tooManyDigits given =>
    "Exceeds the limit (4300 digits) for integer string conversion"
      ++ given.elim "" (fun n => s!": value has {n} digits")
      ++ "; use sys.set_int_max_str_digits() to increase the limit"
  | integerSpelling base text =>
    s!"invalid literal for int() with base {base}: "
      ++ String.ofList ((Text.quoted text).toList.take spellingLimit)
  | realSpelling text => "could not convert string to float: " ++ Text.quoted text
  | calendar fault => fault.text
  | codePoint code =>
    if code < wordLimit then "chr() arg not in range(0x110000)"
    else "Python int too large to convert to C int"
  | integer type => s!"'{type}' object cannot be interpreted as an integer"
  | stripSet => "strip arg must be None or str"
  | levelType => "level must be an integer"
  | subscript type => s!"'{type}' object is not subscriptable"
  | entry index => index
  | arguments function fault => fault.text function
  | format fault => fault.text

end Misuse

end Codegen
