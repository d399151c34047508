/-!
A cache of bounded size and age. An entry can be read while it is younger than the age limit; a full
cache makes room for a new key by dropping the entry stored first.
-/
namespace SenderPolicy.Dns

structure CacheEntry (κ ν : Type) where
  key : κ
  value : ν
  storedAt : Int

/-- The entries stand in the order in which they were stored. -/
structure Cache (κ ν : Type) where
  capacity : Nat
  age : Int
  entries : List (CacheEntry κ ν) := []

namespace Cache

variable {κ ν : Type} [DecidableEq κ]

def entry? (c : Cache κ ν) (key : κ) : Option (CacheEntry κ ν) :=
  c.entries.find? (fun e => e.key = key)

def remove (c : Cache κ ν) (key : κ) : Cache κ ν :=
  { c with entries := c.entries.filter (fun e => e.key ≠ key) }

def read (c : Cache κ ν) (now : Int) (key : κ) : Option ν × Cache κ ν :=
  match c.entry? key with
  | none => (none, c)
  | some e => if now - e.storedAt < c.age then (some e.value, c) else (none, c.remove key)

def dropFirst (c : Cache κ ν) : Cache κ ν := { c with entries := c.entries.drop 1 }

/-- Stores a value. An entry with the key that is still there is replaced where it stands, but in a full
cache it moves to the end. -/
def store (c : Cache κ ν) (now : Int) (key : κ) (value : ν) : Cache κ ν :=
  let c :=
    if c.entries.length = c.capacity then
      if (c.entry? key).isSome then c.remove key else c.dropFirst
    else c
  if (c.entry? key).isSome then
    { c with entries := c.entries.map (fun e => if e.key = key then ⟨key, value, now⟩ else e) }
  else { c with entries := c.entries ++ [⟨key, value, now⟩] }

end Cache
end SenderPolicy.Dns
