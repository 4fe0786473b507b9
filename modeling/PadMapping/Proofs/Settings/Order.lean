import PadMapping.Proofs.Keys
import PadMapping.Settings.Reader

/-!
# The order of settings

Settings are read in the order of the document. But every key of a group is about a part of the
settings of its own, so reading one key and then another is the same as reading them the other way
round (`Orderly.commute`), as long as both can be read. Where no key is given twice, a table may
therefore be read in the order in which the group itself has its keys, with the keys that mean
nothing left out (`readMembers_eq`).

Of a failure only that it is one is kept here: which of several bad values is reported does depend
on the order of the document.
-/

namespace PadMapping.Proofs

open Toml (Value Table)
open Settings

section

variable {α β γ : Type} {g : Settings.Group α} {members : Table}

/-! ## One key -/

/-- What a value behind a key does to the settings of a group, if it is of the right kind. -/
def effect (g : Settings.Group α) (key : String) (v : Value) (s : α) : Option α :=
  (g.read key v s).toOption

/-- What a table does to the settings by what it says about one key, if it says anything. -/
def effectOf (g : Settings.Group α) (members : Table) (key : String) (s : α) : Option α :=
  match members.lookup key with
  | none => some s
  | some v => effect g key v s

/-- What a table does by what it says about several keys, one after another. -/
def effects (g : Settings.Group α) (members : Table) : List String → α → Option α
  | [], s => some s
  | key :: keys, s => (effectOf g members key s).bind (effects g members keys)

/-- A group whose keys do not get into each other's way. -/
structure Orderly (g : Settings.Group α) : Prop where
  keys : g.keys.Nodup
  other : ∀ {key : String}, key ∉ g.keys → ∀ v s, g.read key v s = .ok s
  commute : g.keys.Pairwise fun k k' => ∀ v v' s,
    (effect g k v s).bind (effect g k' v') = (effect g k' v' s).bind (effect g k v)

theorem effectOf_of_none {key : String} (h : members.lookup key = none) :
    effectOf g members key = some := by
  funext s
  rw [effectOf, h]

theorem effectOf_of_some {key : String} {v : Value} (h : members.lookup key = some v) :
    effectOf g members key = effect g key v := by
  funext s
  rw [effectOf, h]

theorem effectOf_cons_of_ne {key k : String} (hne : k ≠ key) (v : Value) (rest : Table) :
    effectOf g ((key, v) :: rest) k = effectOf g rest k := by
  funext s
  rw [effectOf, List.lookup_cons, beq_eq_false_iff_ne.mpr hne]
  rfl

/-! ## Several keys -/

theorem toOption_bind {ε : Type} (x : Except ε β) (f : β → Except ε γ) :
    (x >>= f).toOption = x.toOption.bind fun b => (f b).toOption := by
  cases x <;> rfl

theorem effects_append (front back : List String) (s : α) :
    effects g members (front ++ back) s
      = (effects g members front s).bind (effects g members back) := by
  induction front generalizing s with
  | nil => rfl
  | cons k front ih =>
      rw [List.cons_append, effects, effects, Option.bind_assoc]
      exact congrArg _ (funext ih)

theorem effects_nil (keys : List String) (s : α) : effects g [] keys s = some s := by
  induction keys with
  | nil => rfl
  | cons k keys ih => rw [effects, effectOf_of_none rfl, Option.bind_some, ih]

/-- A key that is not among them does not matter. -/
theorem effects_cons_of_notMem {key : String} {keys : List String} (hother : key ∉ keys)
    (v : Value) (rest : Table) : effects g ((key, v) :: rest) keys = effects g rest keys := by
  induction keys with
  | nil => rfl
  | cons k keys ih =>
      rw [List.mem_cons, not_or] at hother
      funext s
      rw [effects, effects, effectOf_cons_of_ne (Ne.symm hother.1), ih hother.2]

/-- What commutes with what each of the keys does commutes with what all of them do. -/
theorem effects_bind_comm {f : α → Option α} {keys : List String}
    (h : ∀ k ∈ keys, ∀ s, (f s).bind (effectOf g members k) = (effectOf g members k s).bind f)
    (s : α) : (f s).bind (effects g members keys) = (effects g members keys s).bind f := by
  induction keys generalizing s with
  | nil => exact Option.bind_fun_some (f s)
  | cons k keys ih =>
      rw [List.forall_mem_cons] at h
      calc (f s).bind (effects g members (k :: keys))
          = ((f s).bind (effectOf g members k)).bind (effects g members keys) :=
            (Option.bind_assoc ..).symm
        _ = (effectOf g members k s).bind fun s => (f s).bind (effects g members keys) := by
            rw [h.1 s, Option.bind_assoc]
        _ = (effectOf g members k s).bind fun s => (effects g members keys s).bind f := by
            simp only [ih h.2]
        _ = (effects g members (k :: keys) s).bind f := (Option.bind_assoc ..).symm

/-- What stands first in a table can be read where its key stands among the keys of the group. -/
theorem Orderly.effects_cons (h : Orderly g) {key : String} {v : Value} {rest : Table}
    (hnew : key ∉ rest.map Prod.fst) (s : α) :
    effects g ((key, v) :: rest) g.keys s = (effect g key v s).bind (effects g rest g.keys) := by
  by_cases hmem : key ∈ g.keys
  · obtain ⟨front, back, hsplit⟩ := List.append_of_mem hmem
    have hkeys := h.keys
    have hcommute := h.commute
    rw [hsplit, List.nodup_append, List.nodup_cons] at hkeys
    rw [hsplit, List.pairwise_append] at hcommute
    have hfront : key ∉ front := fun hin => hkeys.2.2 key hin key List.mem_cons_self rfl
    -- The keys in front are about other parts, so what this key does can be put before them.
    have hbefore : ∀ s, (effect g key v s).bind (effects g rest front)
        = (effects g rest front s).bind (effect g key v) := by
      refine effects_bind_comm fun k hk s => ?_
      cases hlookup : rest.lookup k with
      | none => rw [effectOf_of_none hlookup, Option.bind_fun_some, Option.bind_some]
      | some v' =>
          rw [effectOf_of_some hlookup]
          exact (hcommute.2.2 k hk key List.mem_cons_self v' v s).symm
    calc effects g ((key, v) :: rest) g.keys s
        = ((effects g rest front s).bind (effect g key v)).bind (effects g rest back) := by
          rw [hsplit, effects_append, effects_cons_of_notMem hfront, Option.bind_assoc]
          refine congrArg _ (funext fun s => ?_)
          rw [effects, effectOf_of_some List.lookup_cons_self, effects_cons_of_notMem hkeys.2.1.1]
      _ = (effect g key v s).bind (effects g rest g.keys) := by
          rw [← hbefore, hsplit, Option.bind_assoc]
          refine congrArg _ (funext fun s => ?_)
          rw [effects_append]
          refine congrArg _ (funext fun s => ?_)
          rw [effects, effectOf_of_none (lookup_eq_none_iff_notMem.mpr hnew), Option.bind_some]
  · rw [effects_cons_of_notMem hmem, effect, h.other hmem]
    rfl

/-- **A table is read in the order of the keys of its group.** -/
theorem readMembers_eq (h : Orderly g) (hkeys : (members.map Prod.fst).Nodup) (start : α) :
    (g.readMembers start members).toOption = effects g members g.keys start := by
  induction members generalizing start with
  | nil => exact (effects_nil g.keys start).symm
  | cons m rest ih =>
      obtain ⟨key, v⟩ := m
      rw [List.map_cons, List.nodup_cons] at hkeys
      rw [h.effects_cons hkeys.1]
      calc (g.readMembers start ((key, v) :: rest)).toOption
          = (effect g key v start).bind fun s => (g.readMembers s rest).toOption := by
            rw [Settings.Group.readMembers, List.foldlM_cons, toOption_bind]
            rfl
        _ = (effect g key v start).bind (effects g rest g.keys) :=
            congrArg _ (funext (ih hkeys.2))

end

end PadMapping.Proofs
