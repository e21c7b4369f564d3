import Aworkit.Protocol.Identity

/-! JSON documents as the worker reads them. An object lists its members in key order; a float is given by its
bits. -/
namespace Aworkit.Protocol

inductive Number where
  | posInt (n : Nat)
  | negInt (n : Int)
  | float (bits : Nat)

/-- Numbers of different kinds differ; the two float zeros are equal. -/
def Number.beq : Number → Number → Bool
  | .posInt a, .posInt b => a == b
  | .negInt a, .negInt b => a == b
  | .float a, .float b => a == b || (a % 2 ^ 63 == 0 && b % 2 ^ 63 == 0)
  | _, _ => false

inductive Value where
  | null
  | bool (b : Bool)
  | number (n : Number)
  | string (s : String)
  | array (items : List Value)
  | object (members : List (String × Value))

mutual

def Value.beq : Value → Value → Bool
  | .null, .null => true
  | .bool a, .bool b => a == b
  | .number a, .number b => a.beq b
  | .string a, .string b => a == b
  | .array a, .array b => Value.beqItems a b
  | .object a, .object b => Value.beqMembers a b
  | _, _ => false

def Value.beqItems : List Value → List Value → Bool
  | [], [] => true
  | a :: as, b :: bs => Value.beq a b && Value.beqItems as bs
  | _, _ => false

def Value.beqMembers : List (String × Value) → List (String × Value) → Bool
  | [], [] => true
  | (k, a) :: as, (l, b) :: bs => k == l && Value.beq a b && Value.beqMembers as bs
  | _, _ => false

end

namespace Value

def asObject : Value → Option (List (String × Value))
  | .object members => some members
  | _ => none

def asArray : Value → Option (List Value)
  | .array items => some items
  | _ => none

def asStr : Value → Option String
  | .string s => some s
  | _ => none

def asBool : Value → Option Bool
  | .bool b => some b
  | _ => none

/-- The value under a key of an object. -/
def member (key : String) (members : List (String × Value)) : Option Value :=
  (members.find? fun entry => entry.1 == key).map Prod.snd

/-- `Value::get` with a key; only an object has one. -/
def get (key : String) (value : Value) : Option Value := value.asObject.bind (member key)

/-- `Map::insert`: the value replaces an equal key's, or is put in key order. -/
def insertMember (key : String) (value : Value) : List (String × Value) → List (String × Value)
  | [] => [(key, value)]
  | (other, old) :: rest =>
    match compare key other with
    | .lt => (key, value) :: (other, old) :: rest
    | .eq => (key, value) :: rest
    | .gt => (other, old) :: insertMember key value rest

theorem member_cons (key other : String) (value : Value) (rest : List (String × Value)) :
    member other ((key, value) :: rest) = if key = other then some value else member other rest := by
  by_cases hkey : key = other <;> simp [member, hkey]

theorem member_insertMember (key other : String) (value : Value) (members : List (String × Value)) :
    member other (insertMember key value members) = if key = other then some value else member other members := by
  induction members with
  | nil => exact member_cons key other value []
  | cons entry rest ih =>
    obtain ⟨name, old⟩ := entry
    rw [insertMember]
    split
    · exact member_cons key other value _
    · next hsame =>
      rw [member_cons, member_cons, ← Std.LawfulEqOrd.compare_eq_iff_eq.mp hsame]
      split <;> rfl
    · next hlater =>
      have hne : name ≠ key := by
        rintro rfl
        simp at hlater
      rw [member_cons, member_cons, ih]
      split
      · next hname => rw [if_neg fun hkey => hne (hname.trans hkey.symm)]
      · rfl

/-- The members of the second object inserted into the first, one by one. -/
def overlay (members object : List (String × Value)) : List (String × Value) :=
  object.foldl (fun merged member => insertMember member.1 member.2 merged) members

/-- `str::replace` of two characters in a row by one. -/
def replacePair (first second char : Char) : List Char → List Char
  | a :: b :: rest =>
    if a = first ∧ b = second then char :: replacePair first second char rest
    else a :: replacePair first second char (b :: rest)
  | rest => rest

/-- An array index: decimal digits without a sign or a leading zero. -/
def parseIndex (token : List Char) : Option Nat :=
  if token.isEmpty || (token.head? == some '0' && token.length != 1) || !token.all Char.isDigit then none
  else some (token.foldl (fun n c => 10 * n + (c.toNat - '0'.toNat)) 0)

/-- The part of a document that one token of a pointer names. -/
def part (target : Value) (token : List Char) : Option Value :=
  match target with
  | .object members => member (String.ofList token) members
  | .array items => (parseIndex token).bind fun index => items[index]?
  | _ => none

/-- `Value::pointer`: the part of a document under a JSON pointer. -/
def pointer (value : Value) (path : String) : Option Value :=
  if path.isEmpty then some value
  else if path.toList.head? != some '/' then none
  else (path.toList.splitOn '/').tail.foldlM (fun target token =>
    part target (replacePair '~' '0' '~' (replacePair '~' '1' '/' token))) value

/-- Equality of two optional documents, as the comparison of two lookups. -/
def beqOption : Option Value → Option Value → Bool
  | none, none => true
  | some a, some b => a.beq b
  | _, _ => false

end Value
end Aworkit.Protocol
