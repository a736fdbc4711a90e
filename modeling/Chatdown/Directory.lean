import Chatdown.Manager

/-!
# Directories of managers

A directory lists managers under their keys. A later record takes the place of an earlier one
with the same key, and records without a key are not listed.
-/

namespace Chatdown

/-- Managers under distinct keys. -/
structure Directory where
  entries : List (Text × Manager)
  keys_nodup : (entries.map Prod.fst).Nodup := by simp

namespace Directory

def empty : Directory := ⟨[], by simp⟩

/-- Lists a manager under a key, in the place of whoever was listed there. -/
def insert (d : Directory) (key : Text) (m : Manager) : Directory where
  entries := (key, m) :: d.entries.filter (·.1 ≠ key)
  keys_nodup := by
    rw [List.map_cons, List.nodup_cons]
    constructor
    · simp
    · exact d.keys_nodup.sublist (List.filter_sublist.map _)

/-- Lists a manager under the key that the record gives, if it gives one. -/
def add (d : Directory) (m : Manager) : Directory :=
  match m.key? with
  | some key => d.insert key m
  | none => d

def ofList (managers : List Manager) : Directory := managers.foldl add empty

/-- The manager listed under exactly this key. -/
def find? (d : Directory) (key : Text) : Option Manager := d.entries.lookup key

/-- The manager with this GitHub user name, whatever its case. -/
def findByUsername? (d : Directory) (username : Text) : Option Manager := d.find? username.lower

def size (d : Directory) : Nat := d.entries.length

def isEmpty (d : Directory) : Bool := d.entries.isEmpty

instance : Inhabited Directory := ⟨empty⟩

end Directory

end Chatdown
