import Codegen.Value.Basic

/-!
The kinds of faults, which stand below one another. A plugin can add kinds of its own.
-/

namespace Codegen

namespace Fault

/-- The kinds that a kind of the language or its library stands directly below; `Exception` alone for those
that are left out. -/
def kindsAbove : List (String × List String) :=
  [("BaseException", []),
   ("Exception", ["BaseException"]), ("KeyboardInterrupt", ["BaseException"]),
   ("SystemExit", ["BaseException"]), ("GeneratorExit", ["BaseException"]),
   ("CancelledError", ["BaseException"]), ("FrozenInstanceError", ["AttributeError"]),
   ("BaseExceptionGroup", ["BaseException"]), ("ExceptionGroup", ["BaseExceptionGroup", "Exception"]),
   ("FloatingPointError", ["ArithmeticError"]), ("OverflowError", ["ArithmeticError"]),
   ("ZeroDivisionError", ["ArithmeticError"]), ("ModuleNotFoundError", ["ImportError"]),
   ("IndexError", ["LookupError"]), ("KeyError", ["LookupError"]), ("UnboundLocalError", ["NameError"]),
   ("BlockingIOError", ["OSError"]), ("ChildProcessError", ["OSError"]), ("ConnectionError", ["OSError"]),
   ("FileExistsError", ["OSError"]), ("FileNotFoundError", ["OSError"]), ("InterruptedError", ["OSError"]),
   ("IsADirectoryError", ["OSError"]), ("NotADirectoryError", ["OSError"]), ("PermissionError", ["OSError"]),
   ("ProcessLookupError", ["OSError"]), ("TimeoutError", ["OSError"]),
   ("BrokenPipeError", ["ConnectionError"]), ("ConnectionAbortedError", ["ConnectionError"]),
   ("ConnectionRefusedError", ["ConnectionError"]), ("ConnectionResetError", ["ConnectionError"]),
   ("NotImplementedError", ["RuntimeError"]), ("RecursionError", ["RuntimeError"]),
   ("IndentationError", ["SyntaxError"]), ("TabError", ["IndentationError"]),
   ("UnicodeError", ["ValueError"]), ("UnicodeDecodeError", ["UnicodeError"]),
   ("UnicodeEncodeError", ["UnicodeError"]), ("UnicodeTranslateError", ["UnicodeError"]),
   ("BytesWarning", ["Warning"]), ("DeprecationWarning", ["Warning"]), ("EncodingWarning", ["Warning"]),
   ("FutureWarning", ["Warning"]), ("ImportWarning", ["Warning"]),
   ("PendingDeprecationWarning", ["Warning"]), ("ResourceWarning", ["Warning"]),
   ("RuntimeWarning", ["Warning"]), ("SyntaxWarning", ["Warning"]), ("UnicodeWarning", ["Warning"]),
   ("UserWarning", ["Warning"])]

/-- Whether a kind of the language is `other` or stands below it, by at most `steps` steps. -/
def isBelow : (steps : Nat) → (other kind : String) → Bool
  | 0, other, kind => kind = other
  | steps + 1, other, kind =>
    kind = other || ((kindsAbove.lookup kind).getD ["Exception"]).any (isBelow steps other)

/-- Greatest number of steps from a kind of the language up to `BaseException`. -/
def height : Nat := 4

/-- Whether a fault is of a kind of the language, or of one that a plugin put below it. -/
def isOf (f : Fault) (kind : String) : Bool :=
  if f.above.isEmpty then isBelow height kind f.kind else f.above.any (isBelow height kind)

end Fault

end Codegen
