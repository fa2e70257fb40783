import EntityProvider.Library.Text
import Std.Data.ExtTreeMap

/-!
# Kubernetes objects

The data the provider handles: JSON values, object metadata and the
`DynamicObject` the watchers report, with the accessors of `kube::ResourceExt`
that the code calls on it.

`BTreeMap<String, _>` is `Std.ExtTreeMap String _`, which iterates in key order
and is determined by its lookups.  So is a `HashMap`, except that an `IterOrder`
rearranges what it yields.  Owner references and managed-field entries
are never inspected and stay JSON values; a JSON number is the text `serde_json`
prints for it.

Code that unwraps an `Option` or a poisoned lock may panic; such code returns
`Checked`.
-/

namespace EntityProvider

open Std (ExtTreeMap)

/-- Why a task or a handler unwound, for the panics that code about objects may have. -/
inductive Panic where
  /-- `Option::unwrap` on `None`. -/
  | unwrapNone
  /-- `lock().unwrap()` on a poisoned mutex. -/
  | poisonedLock
  deriving DecidableEq, Repr

/-- The result of code that may panic: a value, or the panic. -/
abbrev Checked (α : Type) := Except Panic α

/-- `Option::unwrap`: the value that is there, or a panic. -/
def unwrap {α : Type} : Option α → Checked α
  | some a => .ok a
  | none => .error .unwrapNone

@[simp] theorem unwrap_some {α : Type} (a : α) : unwrap (some a) = .ok a := rfl

@[simp] theorem unwrap_none {α : Type} :
    unwrap (none : Option α) = .error .unwrapNone := rfl

/-- Code behind an unwrap runs on the value that is there. -/
theorem unwrap_bind_eq_ok_iff {α β : Type} {o : Option α} {next : α → Checked β} {b : β} :
    (unwrap o >>= next) = .ok b ↔ ∃ a, o = some a ∧ next a = .ok b := by
  cases o <;> simp [bind, Except.bind]

/-- `BTreeMap<String, String>` and, where the iteration order is never observed,
`HashMap<String, String>`. -/
abbrev StringMap := ExtTreeMap String String compare

/-- The order in which a `HashMap` happens to yield its entries: some
rearrangement of them. -/
structure IterOrder where
  arrange : {α : Type} → List α → List α
  perm : ∀ {α : Type} (l : List α), (arrange l).Perm l

/-- The order of the keys, which is one of the orders that a map may iterate in. -/
def IterOrder.sorted : IterOrder where
  arrange l := l
  perm _ := List.Perm.refl _

namespace Kube

/-! ## JSON values -/

/-- `serde_json::Value`; the fields of an object are in key order. -/
inductive Value where
  | null
  | bool (b : Bool)
  | number (text : String)
  | string (s : String)
  | array (items : List Value)
  | object (fields : List (String × Value))
  deriving Repr

namespace Value

/-- `Value::get` with a string index: only objects have fields. -/
def get (v : Value) (key : String) : Option Value :=
  match v with
  | .object fields => fields.lookup key
  | _ => none

/-- The escape `serde_json` writes for one character of a string; most characters are written
as they are. -/
def escapeChar (c : Char) : String :=
  if c = '\x22' then "\\\x22"
  else if c = '\\' then "\\\\"
  else if c.toNat = 8 then "\\b"
  else if c.toNat = 9 then "\\t"
  else if c.toNat = 10 then "\\n"
  else if c.toNat = 12 then "\\f"
  else if c.toNat = 13 then "\\r"
  else if c.toNat < 32 then
    "\\u00" ++ String.ofList [Nat.digitChar (c.toNat / 16), Nat.digitChar (c.toNat % 16)]
  else String.singleton c

/-- A JSON string literal: the escaped characters between quotation marks. -/
def quote (s : String) : String :=
  "\x22" ++ s.toList.foldl (fun text c => text ++ escapeChar c) "" ++ "\x22"

mutual

/-- `serde_json::to_string` of a value: compact, with no blanks between its parts. -/
def toText : Value → String
  | .null => "null"
  | .bool b => if b then "true" else "false"
  | .number text => text
  | .string s => quote s
  | .array items => "[" ++ itemsText items ++ "]"
  | .object fields => "\x7b" ++ fieldsText fields ++ "\x7d"

/-- The items of an array as text, separated by commas and without the brackets. -/
def itemsText : List Value → String
  | [] => ""
  | [v] => toText v
  | v :: rest => toText v ++ "," ++ itemsText rest

/-- The fields of an object as text, separated by commas and without the braces. -/
def fieldsText : List (String × Value) → String
  | [] => ""
  | [(k, v)] => quote k ++ ":" ++ toText v
  | (k, v) :: rest => quote k ++ ":" ++ toText v ++ "," ++ fieldsText rest

end

end Value

/-! ## Metadata -/

/-- `TypeMeta`: the API version and the kind of an object, as it names them itself. -/
structure TypeMeta where
  apiVersion : String
  kind : String
  deriving DecidableEq, Repr

/-- A point in time, in nanoseconds since the epoch. -/
abbrev Time := Int

/-- `ObjectMeta`; `ns` is its `namespace` field. -/
structure ObjectMeta where
  annotations : Option StringMap
  creationTimestamp : Option Time
  deletionGracePeriodSeconds : Option Int
  deletionTimestamp : Option Time
  finalizers : Option (List String)
  generateName : Option String
  generation : Option Int
  labels : Option StringMap
  managedFields : Option (List Value)
  name : Option String
  ns : Option String
  ownerReferences : Option (List Value)
  resourceVersion : Option String
  selfLink : Option String
  uid : Option String

/-- `ObjectMeta::default()`: every field absent. -/
def ObjectMeta.empty : ObjectMeta where
  annotations := none
  creationTimestamp := none
  deletionGracePeriodSeconds := none
  deletionTimestamp := none
  finalizers := none
  generateName := none
  generation := none
  labels := none
  managedFields := none
  name := none
  ns := none
  ownerReferences := none
  resourceVersion := none
  selfLink := none
  uid := none

/-- `DynamicObject`: an object of any kind, its types not always present. -/
structure DynamicObject where
  types : Option TypeMeta
  metadata : ObjectMeta
  data : Value

namespace DynamicObject

/-- `ResourceExt::name_any`: the name, else the name to be generated, else the
empty string. -/
def nameAny (o : DynamicObject) : String :=
  (o.metadata.name.or o.metadata.generateName).getD ""

/-- `ResourceExt::labels`: the empty map where there are none. -/
def labels (o : DynamicObject) : StringMap :=
  o.metadata.labels.getD ∅

/-- `ResourceExt::creation_timestamp`, which an object need not have. -/
def creationTimestamp (o : DynamicObject) : Option Time :=
  o.metadata.creationTimestamp

end DynamicObject

end Kube

/-- The map inside `Db`, the cache all tasks share (`ax_types.rs`). -/
abbrev CacheMap := ExtTreeMap String Kube.DynamicObject compare

end EntityProvider
