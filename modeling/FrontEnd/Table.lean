/-!
Finite tables: at most one value for a key, the key bound last in front.
-/

namespace FrontEnd

structure Table (α β : Type) where
  entries : List (α × β) := []
  deriving DecidableEq, Repr

namespace Table

variable {α β : Type} [DecidableEq α]

def empty : Table α β := {}

def size (t : Table α β) : Nat := t.entries.length

def keys (t : Table α β) : List α := t.entries.map Prod.fst

def get? (t : Table α β) (k : α) : Option β :=
  (t.entries.find? (·.1 = k)).map Prod.snd

def erase (t : Table α β) (k : α) : Table α β := ⟨t.entries.filter (·.1 ≠ k)⟩

def insert (t : Table α β) (k : α) (v : β) : Table α β := ⟨(k, v) :: (t.erase k).entries⟩

@[simp] theorem get?_empty (k : α) : (empty : Table α β).get? k = none := rfl

theorem get?_erase (t : Table α β) (k j : α) :
    (t.erase k).get? j = if k = j then none else t.get? j := by
  unfold get? erase
  split
  · subst j
    simp [List.find?_filter]
  · rename_i h
    rw [List.find?_filter]
    congr 2
    funext p
    by_cases hp : p.1 = j
    · simp [hp, Ne.symm h]
    · simp [hp]

theorem get?_insert (t : Table α β) (k j : α) (v : β) :
    (t.insert k v).get? j = if k = j then some v else t.get? j := by
  by_cases h : k = j
  · simp [insert, get?, h]
  · have herase := t.get?_erase k j
    rw [if_neg h] at herase ⊢
    rw [← herase]
    simp [insert, get?, h]

theorem mem_keys_iff (t : Table α β) (k : α) : k ∈ t.keys ↔ (t.get? k).isSome = true := by
  simp [keys, get?]

theorem keys_erase (t : Table α β) (k : α) : (t.erase k).keys = t.keys.filter (· ≠ k) := by
  simp [keys, erase, List.filter_map, Function.comp_def]

theorem keys_insert (t : Table α β) (k : α) (v : β) :
    (t.insert k v).keys = k :: t.keys.filter (· ≠ k) := by
  rw [← keys_erase]
  rfl

theorem nodup_keys_erase {t : Table α β} (h : t.keys.Nodup) (k : α) : (t.erase k).keys.Nodup := by
  rw [keys_erase]
  exact h.filter _

theorem nodup_keys_insert {t : Table α β} (h : t.keys.Nodup) (k : α) (v : β) :
    (t.insert k v).keys.Nodup := by
  rw [keys_insert, List.nodup_cons]
  exact ⟨by simp, h.filter _⟩

end Table

end FrontEnd
