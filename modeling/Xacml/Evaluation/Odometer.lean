/-
A row of wheels that turns through every combination of one value of each of several lists. Each
wheel stands at a position of its list and shows the value there. In a turn the last wheel moves on;
a wheel that is at its end goes back to the start and the wheel before it moves on instead. The
readings that are still to come are known beforehand, and a turn takes the first of them away.
-/
import Xacml.Evaluation.Basic

namespace Xacml

variable {α : Type}

/-! ## Wheels -/

/-- A wheel with values on it, the position at which it stands and the value that it shows. -/
structure Wheel (α : Type) where
  values : List α
  position : Nat
  shown : α
  inStep : values[position]? = some shown

namespace Wheel

/-- At the first value; a wheel without values cannot stand anywhere. -/
def start? : List α → Option (Wheel α)
  | [] => none
  | a :: rest => some ⟨a :: rest, 0, a, rfl⟩

/-- At the next value, if there is one. -/
def next? (w : Wheel α) : Option (Wheel α) :=
  match h : w.values[w.position + 1]? with
  | some a => some ⟨w.values, w.position + 1, a, h⟩
  | none => none

theorem position_lt (w : Wheel α) : w.position < w.values.length :=
  (List.getElem?_eq_some_iff.1 w.inStep).1

/-- Back at the first value. -/
def reset (w : Wheel α) : Wheel α :=
  ⟨w.values, 0, w.values.get ⟨0, Nat.zero_lt_of_lt w.position_lt⟩, List.getElem?_eq_getElem _⟩

/-- The values that come after the one that is shown. -/
def ahead (w : Wheel α) : List α := w.values.drop (w.position + 1)

theorem ahead_of_next? {w turned : Wheel α} (h : w.next? = some turned) :
    w.ahead = turned.shown :: turned.ahead ∧ turned.values = w.values := by
  unfold next? at h
  split at h
  · rename_i a ha
    cases h
    obtain ⟨hlt, rfl⟩ := List.getElem?_eq_some_iff.1 ha
    exact ⟨List.drop_eq_getElem_cons hlt, rfl⟩
  · cases h

theorem ahead_of_next?_eq_none {w : Wheel α} (h : w.next? = none) : w.ahead = [] := by
  unfold next? at h
  split at h
  · cases h
  · rename_i hnone
    exact List.drop_eq_nil_of_le (List.getElem?_eq_none_iff.1 hnone)

theorem shown_cons_ahead_reset (w : Wheel α) : w.reset.shown :: w.reset.ahead = w.values := by
  have hpos := Nat.zero_lt_of_lt w.position_lt
  exact (List.drop_eq_getElem_cons hpos).symm

end Wheel

/-! ## Rows of wheels -/

/-- Wheels in a row, the last one the fastest. -/
abbrev Odometer (α : Type) := List (Wheel α)

namespace Odometer

/-- Every combination of one value of each list, the last position fastest. -/
def combinations : List (List α) → List (List α)
  | [] => [[]]
  | domain :: rest => domain.flatMap fun a => (combinations rest).map (a :: ·)

/-- All wheels at their first values, if each list has one. -/
def start? (domains : List (List α)) : Option (Odometer α) := domains.mapM Wheel.start?

/-- What the wheels show. -/
def reading (o : Odometer α) : List α := o.map Wheel.shown

/-- One turn: the last wheel that is not at its end moves on, and those behind it go back. -/
def next? : Odometer α → Option (Odometer α)
  | [] => none
  | w :: rest =>
    match next? rest with
    | some turned => some (w :: turned)
    | none => w.next?.map (· :: rest.map Wheel.reset)

/-- The readings from the present one on. -/
def readings : Odometer α → List (List α)
  | [] => [[]]
  | w :: rest =>
    (readings rest).map (w.shown :: ·) ++
      w.ahead.flatMap fun a => (combinations (rest.map Wheel.values)).map (a :: ·)

theorem values_of_next? {o turned : Odometer α} (h : next? o = some turned) :
    turned.map Wheel.values = o.map Wheel.values := by
  induction o generalizing turned with
  | nil => cases h
  | cons w rest ih =>
    unfold next? at h
    split at h
    · rename_i others hothers
      cases h
      rw [List.map_cons, List.map_cons, ih hothers]
    · obtain ⟨w', hw, rfl⟩ := Option.map_eq_some_iff.1 h
      rw [List.map_cons, List.map_cons, List.map_map, (Wheel.ahead_of_next? hw).2]
      rfl

/-- With all wheels back at the start, every combination is still to come. -/
theorem readings_reset (o : Odometer α) :
    readings (o.map Wheel.reset) = combinations (o.map Wheel.values) := by
  induction o with
  | nil => rfl
  | cons w rest ih =>
    have hvalues : (rest.map Wheel.reset).map Wheel.values = rest.map Wheel.values := by
      rw [List.map_map]
      rfl
    rw [List.map_cons, readings, ih, hvalues, List.map_cons, combinations,
      ← Wheel.shown_cons_ahead_reset w, List.flatMap_cons]

/-- A turn takes the present reading away and leaves the others. -/
theorem readings_eq (o : Odometer α) :
    readings o = reading o :: match next? o with
      | some turned => readings turned
      | none => [] := by
  induction o with
  | nil => rfl
  | cons w rest ih =>
    rw [readings, ih, next?]
    cases hrest : next? rest with
    | some turned =>
      dsimp only
      rw [readings, values_of_next? hrest]
      rfl
    | none =>
      dsimp only
      cases hw : w.next? with
      | none =>
        rw [Wheel.ahead_of_next?_eq_none hw]
        rfl
      | some w' =>
        obtain ⟨hahead, hvalues⟩ := Wheel.ahead_of_next? hw
        have hback : (rest.map Wheel.reset).map Wheel.values = rest.map Wheel.values := by
          rw [List.map_map]
          rfl
        rw [hahead, Option.map_some]
        dsimp only
        rw [readings, readings_reset, hback, List.flatMap_cons]
        rfl

/-- Every turn leaves fewer readings to come. -/
theorem length_readings_lt {o turned : Odometer α} (h : next? o = some turned) :
    (readings turned).length < (readings o).length := by
  rw [readings_eq o, h]
  exact Nat.lt_succ_self _

/-- Whether some reading passes, from the present one on. -/
def search (p : List α → Eval Bool) (o : Odometer α) : Eval Bool := do
  if ← p (reading o) then Eval.ok true
  else
    match h : next? o with
    | some turned =>
      have := length_readings_lt h
      search p turned
    | none => Eval.ok false
termination_by (readings o).length

end Odometer

end Xacml
