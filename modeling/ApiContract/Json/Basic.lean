import ApiContract.Binary64.Basic

/-!
# JSON values

Numbers remember whether they were written as integers, and an object is the
list of its members.  Readers of text put the members in the order of their
keys, so that equal objects are equal lists.
-/

namespace ApiContract

/-- A JSON number: an integer of at most 64 bits, or a binary64 number. -/
inductive Number where
  | integer (value : Int)
  | float (value : Binary64)
  deriving DecidableEq

/-- The binary64 number nearest to a JSON number. -/
def Number.toBinary64 : Number → Binary64
  | .integer n => .ofInt n
  | .float x => x

/-- A JSON value. -/
inductive Json where
  | null
  | bool (value : Bool)
  | number (value : Number)
  | string (value : String)
  | array (items : List Json)
  | object (members : List (String × Json))

namespace Json

instance : Inhabited Json := ⟨.null⟩

mutual
/-- Decides whether two values are the same. -/
def decEq : (a b : Json) → Decidable (a = b)
  | .null, .null => isTrue rfl
  | .bool x, .bool y =>
      if h : x = y then isTrue (by rw [h]) else isFalse (by simpa using h)
  | .number x, .number y =>
      if h : x = y then isTrue (by rw [h]) else isFalse (by simpa using h)
  | .string x, .string y =>
      if h : x = y then isTrue (by rw [h]) else isFalse (by simpa using h)
  | .array xs, .array ys =>
      match decEqItems xs ys with
      | isTrue h => isTrue (by rw [h])
      | isFalse h => isFalse (by simpa using h)
  | .object xs, .object ys =>
      match decEqMembers xs ys with
      | isTrue h => isTrue (by rw [h])
      | isFalse h => isFalse (by simpa using h)
  | .null, .bool _ | .null, .number _ | .null, .string _ | .null, .array _ | .null, .object _
  | .bool _, .null | .bool _, .number _ | .bool _, .string _ | .bool _, .array _
  | .bool _, .object _
  | .number _, .null | .number _, .bool _ | .number _, .string _ | .number _, .array _
  | .number _, .object _
  | .string _, .null | .string _, .bool _ | .string _, .number _ | .string _, .array _
  | .string _, .object _
  | .array _, .null | .array _, .bool _ | .array _, .number _ | .array _, .string _
  | .array _, .object _
  | .object _, .null | .object _, .bool _ | .object _, .number _ | .object _, .string _
  | .object _, .array _ => isFalse (by simp)

/-- Decides whether two lists of values are the same. -/
def decEqItems : (xs ys : List Json) → Decidable (xs = ys)
  | [], [] => isTrue rfl
  | [], _ :: _ => isFalse (by simp)
  | _ :: _, [] => isFalse (by simp)
  | x :: xs, y :: ys =>
      match decEq x y with
      | isFalse h => isFalse (by simp [h])
      | isTrue h =>
          match decEqItems xs ys with
          | isTrue hs => isTrue (by rw [h, hs])
          | isFalse hs => isFalse (by simp [hs])

/-- Decides whether two lists of members are the same. -/
def decEqMembers : (xs ys : List (String × Json)) → Decidable (xs = ys)
  | [], [] => isTrue rfl
  | [], _ :: _ => isFalse (by simp)
  | _ :: _, [] => isFalse (by simp)
  | (k, x) :: xs, (l, y) :: ys =>
      if hk : k = l then
        match decEq x y with
        | isFalse h => isFalse (by simp [h])
        | isTrue h =>
            match decEqMembers xs ys with
            | isTrue hs => isTrue (by rw [hk, h, hs])
            | isFalse hs => isFalse (by simp [hs])
      else isFalse (by simp [hk])
end

instance : DecidableEq Json := decEq

/-- Puts a member into a list of members ordered by key; a member of the same
key is replaced. -/
def insertMember (key : String) (value : Json) :
    List (String × Json) → List (String × Json)
  | [] => [(key, value)]
  | (k, v) :: rest =>
      if key = k then (key, value) :: rest
      else if key < k then (key, value) :: (k, v) :: rest
      else (k, v) :: insertMember key value rest

/-- The object with these members, in the order of their keys; the last one of
a key counts. -/
def ofMembers (members : List (String × Json)) : Json :=
  .object (members.foldl (fun object m => insertMember m.1 m.2 object) [])

/-- The member of an object under a key. -/
def get? (key : String) : Json → Option Json
  | .object members => members.lookup key
  | _ => none

/-- The text of a string value. -/
def string? : Json → Option String
  | .string s => some s
  | _ => none

/-- Whether the value is a string. -/
def isString : Json → Bool
  | .string _ => true
  | _ => false

/-- Whether the value is null. -/
def isNull : Json → Bool
  | .null => true
  | _ => false

end Json
end ApiContract
