import HandlerRouting.Hierarchy

/-!
The classes that are there from the start: the root, the classes of plain values and the exception
classes below the root of all exceptions.
-/

namespace HandlerRouting.Hierarchy

def rootClass : ClassId := 0

def exceptionRoot : ClassId := 1

def noneClass : ClassId := 2

def builtinBases : List (String × List ClassId) := [
  ("object", []), ("BaseException", [0]), ("NoneType", [0]), ("str", [0]), ("int", [0]),
  ("float", [0]), ("bool", [4]), ("bytes", [0]), ("list", [0]), ("dict", [0]), ("tuple", [0]),
  ("set", [0]), ("Exception", [1]), ("BaseExceptionGroup", [1]), ("GeneratorExit", [1]),
  ("KeyboardInterrupt", [1]), ("SystemExit", [1]), ("ArithmeticError", [12]),
  ("AssertionError", [12]), ("AttributeError", [12]), ("BufferError", [12]), ("EOFError", [12]),
  ("ImportError", [12]), ("LookupError", [12]), ("MemoryError", [12]), ("NameError", [12]),
  ("OSError", [12]), ("ReferenceError", [12]), ("RuntimeError", [12]),
  ("StopAsyncIteration", [12]), ("StopIteration", [12]), ("SyntaxError", [12]),
  ("SystemError", [12]), ("TypeError", [12]), ("ValueError", [12]), ("Warning", [12]),
  ("FloatingPointError", [17]), ("OverflowError", [17]), ("ZeroDivisionError", [17]),
  ("ModuleNotFoundError", [22]), ("IndexError", [23]), ("KeyError", [23]),
  ("UnboundLocalError", [25]), ("BlockingIOError", [26]), ("ChildProcessError", [26]),
  ("ConnectionError", [26]), ("FileExistsError", [26]), ("FileNotFoundError", [26]),
  ("InterruptedError", [26]), ("IsADirectoryError", [26]), ("NotADirectoryError", [26]),
  ("PermissionError", [26]), ("ProcessLookupError", [26]), ("TimeoutError", [26]),
  ("BrokenPipeError", [45]), ("ConnectionAbortedError", [45]), ("ConnectionRefusedError", [45]),
  ("ConnectionResetError", [45]), ("NotImplementedError", [28]), ("RecursionError", [28]),
  ("IndentationError", [31]), ("TabError", [60]), ("UnicodeError", [34]),
  ("UnicodeDecodeError", [62]), ("UnicodeEncodeError", [62]), ("UnicodeTranslateError", [62]),
  ("BytesWarning", [35]), ("DeprecationWarning", [35]), ("EncodingWarning", [35]),
  ("FutureWarning", [35]), ("ImportWarning", [35]), ("PendingDeprecationWarning", [35]),
  ("ResourceWarning", [35]), ("RuntimeWarning", [35]), ("SyntaxWarning", [35]),
  ("UnicodeWarning", [35]), ("UserWarning", [35]), ("ExceptionGroup", [13, 12])]

def defineBuiltins (h : Hierarchy) (classes : List (String × List ClassId)) : Hierarchy :=
  classes.foldl (fun h (name, bases) => (h.define? builtinModule name bases false).getD h) h

def builtin : Hierarchy := defineBuiltins ⟨[]⟩ builtinBases

def builtinAliases : List (String × String) :=
  [("IOError", "OSError"), ("EnvironmentError", "OSError")]

def builtinPlace (name : String) : ClassId := (builtinBases.map Prod.fst).idxOf name

def builtinNames : List (String × ClassId) :=
  (builtinBases.map fun (name, _) => (name, builtinPlace name)) ++
    builtinAliases.map fun (other, name) => (other, builtinPlace name)

/-- Exception classes are those that descend from their root; registration does not make one. -/
def isExceptionClass (h : Hierarchy) (c : ClassId) : Bool := (h.lineage c).contains exceptionRoot

theorem built_define_builtins {h : Hierarchy} (built : Built h)
    (classes : List (String × List ClassId)) : Built (defineBuiltins h classes) := by
  induction classes generalizing h with
  | nil => exact built
  | cons first rest ih => exact ih (built.define_or builtinModule first.1 first.2 false)

theorem built_builtin : Built builtin := built_define_builtins .empty builtinBases

example : builtin.lineage exceptionRoot = [1, 0] := by decide +kernel

end HandlerRouting.Hierarchy
