import CelWatch.Typing.Function

/-!
The functions and the names of types that every environment has.
-/

namespace CelWatch

namespace Overload

def global (parameters : List Ty) (result : Ty) : Overload := ⟨false, parameters, result⟩

def member (parameters : List Ty) (result : Ty) : Overload := ⟨true, parameters, result⟩

end Overload

namespace Standard

open Overload

def t : Ty := .parameter "T"

def k : Ty := .parameter "K"

def v : Ty := .parameter "V"

/-- An operation on two values of each of the types. -/
def same (types : List Ty) : List Overload := types.map fun ty => global [ty, ty] ty

/-- A relation between two values of each of the types. -/
def relation (name : String) : Function where
  name := name
  overloads := [Ty.bool, .int, .uint, .double, .string, .bytes, .timestamp, .duration].map
    fun ty => global [ty, ty] .bool

/-- The conversion of values of the types. -/
def conversion (name : String) (types : List Ty) (result : Ty) : Function :=
  ⟨name, types.map fun ty => global [ty] result⟩

/-- A part of a timestamp, also in a time zone. -/
def timestampPart (name : String) : Function :=
  ⟨name, [member [.timestamp] .int, member [.timestamp, .string] .int]⟩

/-- A part of a timestamp or a duration. -/
def timePart (name : String) : Function :=
  ⟨name, (timestampPart name).overloads ++ [member [.duration] .int]⟩

def textTest (name : String) : Function := ⟨name, [member [.string, .string] .bool]⟩

def operators : List Function := [
  ⟨"_+_", same [.int, .uint, .double, .string, .bytes] ++ [
    global [.timestamp, .duration] .timestamp, global [.duration, .timestamp] .timestamp,
    global [.duration, .duration] .duration] ++ same [.list t, .map k v]⟩,
  ⟨"_-_", same [.int, .uint, .double] ++ [
    global [.timestamp, .timestamp] .duration, global [.timestamp, .duration] .timestamp,
    global [.duration, .duration] .duration]⟩,
  ⟨"_*_", same [.int, .uint, .double]⟩,
  ⟨"_/_", same [.int, .uint, .double]⟩,
  ⟨"_%_", same [.int, .uint]⟩,
  ⟨"-_", [global [.int] .int, global [.double] .double]⟩,
  ⟨"!_", [global [.bool] .bool]⟩,
  ⟨"_&&_", same [.bool]⟩,
  ⟨"_||_", same [.bool]⟩,
  ⟨"_?_:_", [global [.bool, t, t] t]⟩,
  ⟨"_==_", [global [t, t] .bool]⟩,
  ⟨"_!=_", [global [t, t] .bool]⟩,
  relation "_<_",
  relation "_<=_",
  relation "_>_",
  relation "_>=_",
  ⟨"@in", [global [t, .list t] .bool, global [k, .map k v] .bool]⟩,
  ⟨"_[_]", [global [.list t, .int] t, global [.map k v, k] v]⟩]

def functions : List Function := operators ++ [
  ⟨"size", [Ty.string, .bytes, .list t, .map k v].flatMap fun ty =>
    [global [ty] .int, member [ty] .int]⟩,
  conversion "bool" [.bool, .string] .bool,
  conversion "int" [.int, .uint, .double, .string, .timestamp] .int,
  conversion "uint" [.uint, .int, .double, .string] .uint,
  conversion "double" [.double, .int, .uint, .string] .double,
  conversion "string" [.string, .bool, .int, .uint, .double, .bytes, .timestamp, .duration] .string,
  conversion "bytes" [.bytes, .string] .bytes,
  conversion "timestamp" [.timestamp, .string, .int] .timestamp,
  conversion "duration" [.duration, .string] .duration,
  conversion "dyn" [t] .dyn,
  conversion "type" [t] (.typeOf t),
  textTest "contains",
  textTest "startsWith",
  textTest "endsWith",
  ⟨"matches", [global [.string, .string] .bool, member [.string, .string] .bool]⟩,
  timestampPart "getFullYear",
  timestampPart "getMonth",
  timestampPart "getDate",
  timestampPart "getDayOfMonth",
  timestampPart "getDayOfWeek",
  timestampPart "getDayOfYear",
  timePart "getHours",
  timePart "getMinutes",
  timePart "getSeconds",
  timePart "getMilliseconds"]

/-- The names of types, each a value of the type of types. -/
def variableTypes : List (String × Ty) := [
  ("bool", .typeOf .bool),
  ("bytes", .typeOf .bytes),
  ("double", .typeOf .double),
  ("dyn", .typeOf .dyn),
  ("int", .typeOf .int),
  ("list", .typeOf (.list .dyn)),
  ("map", .typeOf (.map .dyn .dyn)),
  ("null_type", .typeOf .null),
  ("string", .typeOf .string),
  ("type", .typeOf (.typeOf .dyn)),
  ("uint", .typeOf .uint)]

end Standard

end CelWatch
