import CelWatch.Typing.Standard

/-!
Extensions: groups of functions and names that an environment can add to the
standard ones.
-/

namespace CelWatch

inductive Extension where
  | strings
  | math
  | encoders
  | optionals
deriving DecidableEq, Repr

namespace Extension

open Overload Standard

def all : List Extension := [.strings, .math, .encoders, .optionals]

def stringFunctions : List Function := [
  ⟨"charAt", [member [.string, .int] .string]⟩,
  ⟨"indexOf", [member [.string, .string] .int, member [.string, .string, .int] .int]⟩,
  ⟨"lastIndexOf", [member [.string, .string] .int, member [.string, .string, .int] .int]⟩,
  ⟨"join", [member [.list .string] .string, member [.list .string, .string] .string]⟩,
  ⟨"lowerAscii", [member [.string] .string]⟩,
  ⟨"upperAscii", [member [.string] .string]⟩,
  ⟨"replace", [
    member [.string, .string, .string] .string,
    member [.string, .string, .string, .int] .string]⟩,
  ⟨"split", [
    member [.string, .string] (.list .string),
    member [.string, .string, .int] (.list .string)]⟩,
  ⟨"substring", [member [.string, .int] .string, member [.string, .int, .int] .string]⟩,
  ⟨"trim", [member [.string] .string]⟩,
  ⟨"format", [member [.string, .list .dyn] .string]⟩,
  ⟨"reverse", [member [.string] .string]⟩,
  ⟨"strings.quote", [global [.string] .string]⟩]

def numbers : List Ty := [.int, .uint, .double]

/-- The greatest or least of one to six numbers, or of a list of numbers. -/
def extreme (name : String) : Function where
  name := name
  overloads :=
    numbers.map (fun ty => global [ty] ty) ++ [global [.list .dyn] .dyn] ++
    numbers.flatMap (fun a => numbers.map fun b => global [a, b] (if a = b then a else .dyn)) ++
    [3, 4, 5, 6].map fun count => global (List.replicate count .dyn) .dyn

def doubleFunction (name : String) (result : Ty) : Function := ⟨name, [global [.double] result]⟩

def mathFunctions : List Function := [
  extreme "math.greatest",
  extreme "math.least",
  doubleFunction "math.ceil" .double,
  doubleFunction "math.floor" .double,
  doubleFunction "math.round" .double,
  doubleFunction "math.trunc" .double,
  doubleFunction "math.isInf" .bool,
  doubleFunction "math.isNaN" .bool,
  doubleFunction "math.isFinite" .bool,
  ⟨"math.abs", numbers.map fun ty => global [ty] ty⟩,
  ⟨"math.sign", numbers.map fun ty => global [ty] ty⟩,
  ⟨"math.bitAnd", same [.int, .uint]⟩,
  ⟨"math.bitOr", same [.int, .uint]⟩,
  ⟨"math.bitXor", same [.int, .uint]⟩,
  ⟨"math.bitNot", [global [.int] .int, global [.uint] .uint]⟩,
  ⟨"math.bitShiftLeft", [global [.int, .int] .int, global [.uint, .int] .uint]⟩,
  ⟨"math.bitShiftRight", [global [.int, .int] .int, global [.uint, .int] .uint]⟩]

def encoderFunctions : List Function := [
  ⟨"base64.encode", [global [.bytes] .string]⟩,
  ⟨"base64.decode", [global [.string] .bytes]⟩]

def optionalFunctions : List Function := [
  ⟨"optional.of", [global [t] (.optional t)]⟩,
  ⟨"optional.ofNonZeroValue", [global [t] (.optional t)]⟩,
  ⟨"optional.none", [global [] (.optional .dyn)]⟩,
  ⟨"hasValue", [member [.optional t] .bool]⟩,
  ⟨"value", [member [.optional t] t]⟩,
  ⟨"or", [member [.optional t, .optional t] (.optional t)]⟩,
  ⟨"orValue", [member [.optional t, t] t]⟩]

def functions : Extension → List Function
  | .strings => stringFunctions
  | .math => mathFunctions
  | .encoders => encoderFunctions
  | .optionals => optionalFunctions

end Extension

end CelWatch
