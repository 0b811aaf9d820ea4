import RoleGraph.Word
import RoleGraph.Yaml.Scalar

/-!
# Values

What a document means: scalars, lists, records whose keys are all strings, and dictionaries with
other keys. The entries of a record are kept in byte order of their keys, so two records with the
same entries are equal however they were written.
-/

namespace RoleGraph.Yaml

/-- A value of a document. -/
inductive Value where
  | scalar (s : Scalar)
  | list (items : List Value)
  | record (entries : List (Text × Value))
  | dict (entries : List (Scalar × Value))
  deriving Repr

mutual

/-- Whether two values are the same. -/
def Value.decEq : (v w : Value) → Decidable (v = w)
  | .scalar s, .scalar t => decidable_of_iff (s = t) (by simp)
  | .list xs, .list ys =>
    match decEqItems xs ys with
    | isTrue h => isTrue (h ▸ rfl)
    | isFalse h => isFalse fun e => h (Value.list.inj e)
  | .record xs, .record ys =>
    match decEqRecord xs ys with
    | isTrue h => isTrue (h ▸ rfl)
    | isFalse h => isFalse fun e => h (Value.record.inj e)
  | .dict xs, .dict ys =>
    match decEqDict xs ys with
    | isTrue h => isTrue (h ▸ rfl)
    | isFalse h => isFalse fun e => h (Value.dict.inj e)
  | .scalar _, .list _ | .scalar _, .record _ | .scalar _, .dict _ => isFalse nofun
  | .list _, .scalar _ | .list _, .record _ | .list _, .dict _ => isFalse nofun
  | .record _, .scalar _ | .record _, .list _ | .record _, .dict _ => isFalse nofun
  | .dict _, .scalar _ | .dict _, .list _ | .dict _, .record _ => isFalse nofun

/-- Whether two lists of items are the same. -/
def decEqItems : (xs ys : List Value) → Decidable (xs = ys)
  | [], [] => isTrue rfl
  | v :: xs, w :: ys =>
    match Value.decEq v w, decEqItems xs ys with
    | isTrue h, isTrue h' => isTrue (h ▸ h' ▸ rfl)
    | isFalse h, _ => isFalse fun e => h (List.cons.inj e).1
    | _, isFalse h => isFalse fun e => h (List.cons.inj e).2
  | [], _ :: _ | _ :: _, [] => isFalse nofun

/-- Whether two lists of entries are the same. -/
def decEqRecord : (xs ys : List (Text × Value)) → Decidable (xs = ys)
  | [], [] => isTrue rfl
  | (k, v) :: xs, (l, w) :: ys =>
    match decEq k l, Value.decEq v w, decEqRecord xs ys with
    | isTrue h, isTrue h', isTrue h'' => isTrue (h ▸ h' ▸ h'' ▸ rfl)
    | isFalse h, _, _ => isFalse fun e => h (Prod.mk.inj (List.cons.inj e).1).1
    | _, isFalse h, _ => isFalse fun e => h (Prod.mk.inj (List.cons.inj e).1).2
    | _, _, isFalse h => isFalse fun e => h (List.cons.inj e).2
  | [], _ :: _ | _ :: _, [] => isFalse nofun

/-- Whether two lists of entries with scalar keys are the same. -/
def decEqDict : (xs ys : List (Scalar × Value)) → Decidable (xs = ys)
  | [], [] => isTrue rfl
  | (k, v) :: xs, (l, w) :: ys =>
    match decEq k l, Value.decEq v w, decEqDict xs ys with
    | isTrue h, isTrue h', isTrue h'' => isTrue (h ▸ h' ▸ h'' ▸ rfl)
    | isFalse h, _, _ => isFalse fun e => h (Prod.mk.inj (List.cons.inj e).1).1
    | _, isFalse h, _ => isFalse fun e => h (Prod.mk.inj (List.cons.inj e).1).2
    | _, _, isFalse h => isFalse fun e => h (List.cons.inj e).2
  | [], _ :: _ | _ :: _, [] => isFalse nofun

end

instance : DecidableEq Value := Value.decEq

namespace Value

/-- The null value. -/
def null : Value := .scalar .null

end Value

/-- The value under a key. -/
def getEntry? (k : Text) (entries : List (Text × Value)) : Option Value := entries.lookup k

/-- The order of scalar types among the keys of a dictionary. -/
def Scalar.typeRank : Scalar → Nat
  | .null => 0
  | .bool _ => 1
  | .int n => if n < Word.signedBound then 2 else 3
  | .float _ => 4
  | .str _ => 5
  | .time _ => 6

/-- Whether a key stands before another in a dictionary: by type, then by value. -/
def Scalar.keyBefore (a b : Scalar) : Bool :=
  if a.typeRank != b.typeRank then a.typeRank < b.typeRank
  else match a, b with
    | .bool x, .bool y => !x && y
    | .int x, .int y => x < y
    | .float x, .float y => x.lt y || (x == .nan && y != .nan)
    | .str x, .str y => decide (x < y)
    | .time x, .time y => x.listedBefore y
    | _, _ => false

/-- Whether two scalars are the same key: numbers by value, so the two zeros are one key and a value
that is no number is never the same as another; times by moment and zone. -/
def Scalar.sameKey : Scalar → Scalar → Bool
  | .float x, .float y => x.same y
  | .time x, .time y => x.same y
  | a, b => a == b

/-- Put an entry into a dictionary ordered by key; an existing entry is replaced with its key. -/
def putKey (k : Scalar) (v : Value) : List (Scalar × Value) → List (Scalar × Value)
  | [] => [(k, v)]
  | (k', v') :: rest =>
    if k.sameKey k' then (k, v) :: rest
    else if k.keyBefore k' then (k, v) :: (k', v') :: rest
    else (k', v') :: putKey k v rest

end RoleGraph.Yaml
