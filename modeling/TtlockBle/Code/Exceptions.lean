import Mathlib.Control.Monad.Basic

/-!
# Exceptions

The part of Python's exception hierarchy that the source raises or catches, and its own
`TTLockError`.
-/

namespace TtlockBle

inductive ExcType where
  | valueError
  | unicodeDecodeError
  | unicodeEncodeError
  | runtimeError
  | ttLockError
  | cloudError
  | indexError
  | overflowError
  | assertionError
  | attributeError
  | keyError
  | typeError
  | recursionError
  | timeoutError
  | osError
  | bleakError
  | stopIteration
  | cancelledError
  deriving DecidableEq, Repr

/-- A raised exception: its class and its text. -/
structure PyExc where
  type : ExcType
  text : String
  deriving DecidableEq, Repr

/-- Code that returns or raises. -/
abbrev Py := Except PyExc

def valueError (text : String) : PyExc := ⟨.valueError, text⟩
def runtimeError (text : String) : PyExc := ⟨.runtimeError, text⟩
def ttLockError (text : String) : PyExc := ⟨.ttLockError, text⟩
def overflowError (text : String) : PyExc := ⟨.overflowError, text⟩
def cancelledError : PyExc := ⟨.cancelledError, ""⟩

namespace ExcType

/-- `except ValueError`. Those of `json` and `binascii` are `valueError` here. -/
def isValueError : ExcType → Bool
  | valueError | unicodeDecodeError | unicodeEncodeError => true
  | _ => false

/-- `except RuntimeError`. Those of the library are. -/
def isRuntimeError : ExcType → Bool
  | runtimeError | ttLockError | cloudError | recursionError => true
  | _ => false

end ExcType

def PyExc.isRuntimeOrValueError (e : PyExc) : Bool := e.type.isRuntimeError || e.type.isValueError

def PyExc.isValueError (e : PyExc) : Bool := e.type.isValueError

end TtlockBle
