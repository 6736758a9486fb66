import Codegen.Files.Path
import Codegen.Number.Literal
import Codegen.Schema.Check
import Codegen.Text.Blank

/-!
The options of a generation run and the schema that they are read by. Further options are kept for
the templates.
-/

namespace Codegen.Settings

structure Options where
  output : String := "./gen"
  platform : String := "python"
  platformDirectory : Option Files.Path := none
  globalPlugins : Option Files.Path := none
  delimiter : String := "::"
  templateExtension : String := ".j2"
  scriptExtension : String := ".py"
  commentWidth : Int := 80
  further : List (String × Value) := []

instance : Inhabited Options := ⟨{}⟩

def dropLeadingZeros (text : List Char) : Option (List Char) :=
  match text with
  | [] => none
  | '0' :: rest => from0 '0' rest
  | c :: _ => if ('1' ≤ c ∧ c ≤ '9') ∨ c = '-' then some text else none
where
  /-- Goes on behind `last`, a zero or a low line. -/
  from0 (last : Char) : List Char → Option (List Char)
    | [] => some [last]
    | c :: rest =>
      if c = '0' ∨ c = '_' then from0 c rest
      else if '1' ≤ c ∧ c ≤ '9' then some (c :: rest)
      else if c = '.' then some (last :: c :: rest)
      else none

def dropZeroFraction (text : List Char) : List Char :=
  let fraction := text.dropWhile (· ≠ '.')
  if 1 < fraction.length && (fraction.drop 1).all (· = '0') then text.takeWhile (· ≠ '.') else text

/-- The integer that a text spells: digits with single low lines between them, a sign, blanks
around, and perhaps a fraction of zeros. -/
def integerOfText? (text : String) : Option Int := do
  let text := text.toList.dropWhile Text.hasWhiteSpace
  let text := (text.reverse.dropWhile Text.hasWhiteSpace).reverse
  let text := match text with
    | '+' :: rest => if rest.head? = some '-' then [] else rest
    | text => text
  let (negative, digits) := Number.signed (dropZeroFraction (← dropLeadingZeros text))
  if digits.head? = some '_' ∨ (negative ∧ digits.head? = some '+') then none
  else
    let n ← Text.digits? 10 (← Number.ungroup? Text.isDigit digits)
    return if negative then -(n : Int) else n

def integerTextLimit : Nat := 4300

def integerCheck (v : Value) : Checked Int :=
  let ofText (s : String) : Checked Int :=
    if integerTextLimit < s.utf8ByteSize then Checked.refuse .integerTooLong v
    else
      match integerOfText? s with
      | some n => .ok n
      | none => Checked.refuse .unreadableInteger v
  match v with
  | .bool b => .ok (if b then 1 else 0)
  | .int n => .ok n
  | .float x =>
    match Number.integerOfFloat? x with
    | some n =>
      if -Checked.wordLimit < n ∧ n < Checked.wordLimit then .ok n else Checked.refuse .fraction v
    | none =>
      Checked.refuse (if (Number.truncate? x).isSome then .fraction else .notFinite) v
  | .text s => ofText s
  | .bytes bs =>
    match String.fromUTF8? ⟨bs.toArray⟩ with
    | some s => ofText s
    | none => Checked.refuse (if Text.isHalved bs then .notUnicode else .unreadableInteger) v
  | _ => Checked.refuse .notInteger v

def widthCheck (v : Value) : Checked Int := do
  let n ← integerCheck v
  if 0 < n then return n else Checked.refuse .notPositive v

def pathCheck : Value → Checked (Option Files.Path)
  | .null => .ok none
  | v =>
    match Checked.text v with
    | .ok s => .ok (some (.ofString s))
    | .error _ => Checked.refuse .notPath v

namespace Options

def names : List String :=
  ["output", "platform", "platform_dir", "global_plugins_dir", "package_delimiter",
   "template_extension", "script_extension", "comment_width"]

def check (given : List (String × Value)) : Checked Options :=
  let fields := given.map fun (name, v) => (Value.text name, v)
  let text (name : String) (otherwise : String) : Checked String :=
    Checked.field name Checked.text (.ok otherwise) fields
  let path (name : String) : Checked (Option Files.Path) :=
    Checked.field name pathCheck (.ok none) fields
  let width := Checked.field "comment_width" widthCheck (.ok 80) fields
  let further := given.filter fun (name, _) => name ∉ names
  let texts := Checked.apply ((text "output" "./gen").map Options.mk) (text "platform" "python")
  let paths := Checked.apply (Checked.apply texts (path "platform_dir")) (path "global_plugins_dir")
  let extensions :=
    Checked.apply
      (Checked.apply (Checked.apply paths (text "package_delimiter" "::"))
        (text "template_extension" ".j2"))
      (text "script_extension" ".py")
  (Checked.apply extensions width).map fun options => options further

def fields (options : Options) : List (String × Value) :=
  [("output", .text options.output), ("platform", .text options.platform),
   ("platform_dir", .ofOption .path options.platformDirectory),
   ("global_plugins_dir", .ofOption .path options.globalPlugins),
   ("package_delimiter", .text options.delimiter),
   ("template_extension", .text options.templateExtension),
   ("script_extension", .text options.scriptExtension),
   ("comment_width", .int options.commentWidth)]
  ++ options.further

def value (options : Options) : Value := .record .options options.fields

end Options

end Codegen.Settings
