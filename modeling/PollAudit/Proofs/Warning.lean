import PollAudit.Audit.Batch

namespace PollAudit

/-- The third list has the elements of the first two, each of them in its order. -/
inductive Interleaves {α : Type} : List α → List α → List α → Prop
  | nil : Interleaves [] [] []
  | left {a : α} {first second all : List α} :
    Interleaves first second all → Interleaves (a :: first) second (a :: all)
  | right {a : α} {first second all : List α} :
    Interleaves first second all → Interleaves first (a :: second) (a :: all)

namespace Interleaves

variable {α β : Type} {first second all : List α}

private theorem of_left (first : List α) : Interleaves first [] first := by
  induction first with
  | nil => exact .nil
  | cons a rest ih => exact .left ih

private theorem of_right (second : List α) : Interleaves [] second second := by
  induction second with
  | nil => exact .nil
  | cons a rest ih => exact .right ih

/-- Interleavings can be put one behind the other. -/
protected theorem append {first' second' all' : List α} (h : Interleaves first second all)
    (h' : Interleaves first' second' all') :
    Interleaves (first ++ first') (second ++ second') (all ++ all') := by
  induction h with
  | nil => exact h'
  | left _ ih => exact .left ih
  | right _ ih => exact .right ih

/-- Two lists one behind the other are interleaved. -/
theorem append_left (first second : List α) : Interleaves first second (first ++ second) := by
  have hboth := (of_left first).append (of_right second)
  rwa [List.append_nil, List.nil_append] at hboth

/-- What follows the second list may follow the whole. -/
theorem append_right (h : Interleaves first second all) (later : List α) :
    Interleaves first (second ++ later) (all ++ later) := by
  have hboth := h.append (of_right later)
  rwa [List.append_nil] at hboth

/-- The first list reaches as far to both sides as all do. -/
theorem surround (h : Interleaves first second all) (before later : List α) :
    Interleaves (before ++ (first ++ later)) second (before ++ (all ++ later)) := by
  have hboth := (of_left before).append (h.append (of_left later))
  rwa [List.append_nil, List.nil_append] at hboth

/-- What is interleaved piece by piece is interleaved as a whole. -/
protected theorem flatMap {f g all : β → List α} (h : ∀ b, Interleaves (f b) (g b) (all b))
    (bs : List β) : Interleaves (bs.flatMap f) (bs.flatMap g) (bs.flatMap all) := by
  induction bs with
  | nil => exact .nil
  | cons b rest ih =>
    simp only [List.flatMap_cons]
    exact (h b).append ih

/-- With nothing in the first list, the second one is all. -/
theorem eq_of_nil (h : Interleaves [] second all) : all = second := by
  induction second generalizing all with
  | nil =>
    cases h
    rfl
  | cons a rest ih =>
    cases h with
    | right h => rw [ih h]

end Interleaves

namespace Event

variable (least : Level) (first second : List Event)

@[simp] theorem atLeast_nil : atLeast least [] = [] := rfl

@[simp] theorem atLeast_append :
    atLeast least (first ++ second) = atLeast least first ++ atLeast least second :=
  List.filter_append ..

theorem atLeast_flatMap {α : Type} (events : α → List Event) (as : List α) :
    atLeast least (as.flatMap events) = as.flatMap fun a => atLeast least (events a) :=
  List.filter_flatMap ..

end Event

/-- The warning that a network is due: one if it is enabled and has a stalled class. -/
def LiveStats.alerts (stats : LiveStats) : List Event :=
  if stats.enabled && stats.lockups.any then
    [{ level := .warn
       message := "polling lockup alert"
       fields := [("network", .text stats.network), ("stalled", .text stats.lockups.text)] }]
  else []

/-- Nothing but this is warned of when the counters of a network arrive. -/
theorem LiveStats.atLeast_events (stats : LiveStats) :
    Event.atLeast .warn stats.events = stats.alerts := by
  unfold events alerts
  cases stats.enabled with
  | false => rfl
  | true => cases stats.lockups.any <;> rfl

/-- A network gives no alert exactly if it is disabled or has no lockup. -/
theorem LiveStats.alerts_eq_nil_iff {stats : LiveStats} :
    stats.alerts = [] ↔ (stats.enabled && stats.lockups.any) = false := by
  unfold alerts
  split
  · rename_i h
    simp [h]
  · rename_i h
    simp only [Bool.eq_false_iff.mpr h]

/-- The warning that a request brings, if it finds counters. -/
def Pending.alerts (pending : Pending) : List Event :=
  pending.reply.result.toOption.elim [] LiveStats.alerts

end PollAudit
