import HandleBridge.Event
import Mathlib.Data.List.Basic

/-
  Sessions with a log.

  A console is asked one request after another, and it keeps a log of which some level is shown.
  The level is known to the console, so it could make a difference. It makes none if any two
  runs at two levels go on side by side: there is a relation of states that the start
  establishes, that every request keeps, and under which requests have the same answers and
  lines that differ only by what is hidden (`Console.Follows`). By induction on the requests
  whole sessions then differ in no more than that (`Console.Indifferent`).

  Proved:
  * `reported_of_le`: the lines of a lower level are among those of a higher one.
  * `Console.Follows.run`: runs that start from related states.
  * `Console.Follows.indifferent`: the level of a log is seen in the log alone.
-/

namespace HandleBridge

/-- A line of a log, with the number of its level. -/
abbrev Line := Nat × String

namespace Event

variable {n m : UInt32} {ceiling ceiling' : Nat} {es : List Event}

/-- The lines that events make in a log at a level. -/
def reported (level : UInt32) (es : List Event) : List Line :=
  (visible level.toNat es).map fun e => (e.level.rank, e.line)

theorem rank_le_five (e : Event) : e.level.rank ≤ 5 := by
  cases e.level <;> decide

theorem visible_visible (h : ceiling ≤ ceiling') (es : List Event) :
    visible ceiling (visible ceiling' es) = visible ceiling es := by
  unfold visible
  rw [List.filter_filter]
  refine List.filter_congr fun e _ => ?_
  rw [Bool.and_eq_left_iff_imp, decide_eq_true_eq, decide_eq_true_eq]
  exact fun he => Nat.le_trans he h

theorem reported_of_le (h : n ≤ m) (es : List Event) :
    reported n es = (reported m es).filter fun l => l.1 ≤ n.toNat := by
  unfold reported
  rw [List.filter_map, ← visible_visible (UInt32.le_iff_toNat_le.1 h) es]
  rfl

theorem reported_zero (es : List Event) : reported 0 es = [] := by
  rw [reported, UInt32.toNat_zero, visible_zero, List.map_nil]

/-- At the highest level nothing is hidden. -/
theorem filter_reported_five (level : UInt32) (es : List Event) :
    (reported level es).filter (fun l => l.1 ≤ UInt32.toNat 5) = reported level es := by
  refine List.filter_eq_self.2 fun l hl => ?_
  obtain ⟨e, -, rfl⟩ := List.mem_map.1 hl
  exact decide_eq_true e.rank_le_five

end Event

/-- Both fail alike, or both succeed, with related values. -/
inductive Side {ε α β : Type} (R : α → β → Prop) : Except ε α → Except ε β → Prop where
  | ok {a : α} {b : β} (related : R a b) : Side R (.ok a) (.ok b)
  | error (cause : ε) : Side R (.error cause) (.error cause)

theorem Side.refl {ε α : Type} {R : α → α → Prop} (h : ∀ a, R a a) :
    (x : Except ε α) → Side R x x
  | .ok a => .ok (h a)
  | .error cause => .error cause

/-- Something that is asked one request after another, at a level of its log. -/
structure Console where
  State : Type
  Request : Type 1
  Answer : Request → Type
  /-- Why there may be no further requests. -/
  Stop : Type
  start : (level : UInt32) → Except Stop State × List Event
  play : (level : UInt32) → (r : Request) → State → Except Stop (Answer r × State) × List Event
  /-- What is compared of the states that two sessions end in. -/
  shown : State → State

/-- What there is to see of a session. -/
structure Transcript (c : Console) where
  answers : List (Σ r, c.Answer r) := []
  /-- The lines of each request. -/
  lines : List (List Line) := []
  final : Except c.Stop c.State

namespace Console

variable {c : Console} {n m : UInt32} {s s' : c.State}

/-- The requests one after another, up to the first that puts an end to it. -/
def run (c : Console) (level : UInt32) : List c.Request → c.State → Transcript c
  | [], s => { final := .ok s }
  | r :: rs, s =>
    match c.play level r s with
    | (.error stop, es) => { lines := [Event.reported level es], final := .error stop }
    | (.ok (a, s), es) =>
      let t := run c level rs s
      { t with answers := ⟨r, a⟩ :: t.answers, lines := Event.reported level es :: t.lines }

/-- A start and the requests after it. -/
def session (c : Console) (level : UInt32) (rs : List c.Request) : Transcript c :=
  match c.start level with
  | (.error stop, es) => { lines := [Event.reported level es], final := .error stop }
  | (.ok s, es) =>
    let t := c.run level rs s
    { t with lines := Event.reported level es :: t.lines }

theorem exists_of_mem_run {ls : List Line} {rs : List c.Request}
    (h : ls ∈ (c.run n rs s).lines) : ∃ es, ls = Event.reported n es := by
  induction rs generalizing s with
  | nil => cases h
  | cons r rs ih =>
    unfold run at h
    split at h
    · exact ⟨_, List.mem_singleton.1 h⟩
    · rcases List.mem_cons.1 h with rfl | h
      · exact ⟨_, rfl⟩
      · exact ih h

/-- The lines of a session are those of events, as its level shows them. -/
theorem exists_of_mem_session {ls : List Line} {rs : List c.Request}
    (h : ls ∈ (c.session n rs).lines) : ∃ es, ls = Event.reported n es := by
  unfold session at h
  split at h
  · exact ⟨_, List.mem_singleton.1 h⟩
  · rcases List.mem_cons.1 h with rfl | h
    · exact ⟨_, rfl⟩
    · exact exists_of_mem_run h

/-- The events of a lower level that are visible are those of a higher level that are not too
unimportant. -/
def Among (n m : UInt32) (es es' : List Event) : Prop :=
  n ≤ m → Event.reported n es = (Event.reported m es').filter fun l => l.1 ≤ n.toNat

theorem among_self (es : List Event) : Among n m es es := fun h => Event.reported_of_le h es

/-- Two sessions at the levels `n` and `m` differ in no more than the lines that only one of them
shows. -/
structure Agree (n m : UInt32) (t t' : Transcript c) : Prop where
  answers : t.answers = t'.answers
  final : Side (fun s s' => c.shown s = c.shown s') t.final t'.final
  lines : n ≤ m → t.lines = t'.lines.map fun ls => ls.filter fun l => l.1 ≤ n.toNat

/-- The level of the log is seen in the log alone. -/
structure Indifferent (c : Console) : Prop where
  agree : ∀ n m rs, Agree n m (c.session n rs) (c.session m rs)
  /-- Higher levels than the highest are the same as it. -/
  highest : ∀ n rs, 5 ≤ n → (c.session n rs).lines = (c.session 5 rs).lines
  silent : ∀ rs, ∀ ls ∈ (c.session 0 rs).lines, ls = []

/-- Two runs at different levels go on side by side. -/
structure Follows (c : Console) (R : c.State → c.State → Prop) : Prop where
  shown : ∀ {s s'}, R s s' → c.shown s = c.shown s'
  start : ∀ n m, Side R (c.start n).1 (c.start m).1 ∧ Among n m (c.start n).2 (c.start m).2
  play : ∀ n m r {s s'}, R s s' →
    Side (fun p q => p.1 = q.1 ∧ R p.2 q.2) (c.play n r s).1 (c.play m r s').1 ∧
      Among n m (c.play n r s).2 (c.play m r s').2

/-- Where the level is not looked at, nothing depends on it. -/
theorem follows_eq (hstart : ∀ n m, c.start n = c.start m)
    (hplay : ∀ n m r s, c.play n r s = c.play m r s) : c.Follows Eq where
  shown := congrArg c.shown
  start n m := by
    rw [hstart n m]
    exact ⟨.refl (fun _ => rfl) _, among_self _⟩
  play n m r s s' hs := by
    rw [← hs, hplay n m r s]
    exact ⟨.refl (fun _ => ⟨rfl, rfl⟩) _, among_self _⟩

namespace Follows

variable {R : c.State → c.State → Prop}

/-- Induction on the requests; the relation is the invariant. -/
theorem run (h : c.Follows R) (hs : R s s') (rs : List c.Request) :
    Agree n m (c.run n rs s) (c.run m rs s') := by
  induction rs generalizing s s' with
  | nil => exact ⟨rfl, .ok (h.shown hs), fun _ => rfl⟩
  | cons r rs ih =>
    obtain ⟨hside, hlines⟩ := h.play n m r hs
    unfold Console.run
    generalize c.play n r s = x at hside hlines
    generalize c.play m r s' = y at hside hlines
    obtain ⟨x, es⟩ := x
    obtain ⟨y, es'⟩ := y
    cases hside with
    | error stop => exact ⟨rfl, .error stop, fun hle => congrArg (fun ls => [ls]) (hlines hle)⟩
    | @ok a b hab =>
      obtain ⟨a, s⟩ := a
      obtain ⟨b, s'⟩ := b
      obtain ⟨rfl, hs⟩ := hab
      have ht := ih hs
      exact ⟨congrArg (⟨r, a⟩ :: ·) ht.answers, ht.final,
        fun hle => congrArg₂ List.cons (hlines hle) (ht.lines hle)⟩

theorem session (h : c.Follows R) (rs : List c.Request) :
    Agree n m (c.session n rs) (c.session m rs) := by
  obtain ⟨hside, hlines⟩ := h.start n m
  unfold Console.session
  generalize c.start n = x at hside hlines
  generalize c.start m = y at hside hlines
  obtain ⟨x, es⟩ := x
  obtain ⟨y, es'⟩ := y
  cases hside with
  | error stop => exact ⟨rfl, .error stop, fun hle => congrArg (fun ls => [ls]) (hlines hle)⟩
  | ok hs =>
    have ht : Agree n m (c.run n rs _) (c.run m rs _) := h.run hs rs
    exact ⟨ht.answers, ht.final, fun hle => congrArg₂ List.cons (hlines hle) (ht.lines hle)⟩

theorem indifferent (h : c.Follows R) : c.Indifferent where
  agree _ _ rs := h.session rs
  highest n rs hn := by
    rw [(h.session rs).lines hn]
    refine ((List.map_congr_left fun ls hls => ?_).trans (List.map_id _)).symm
    obtain ⟨es, rfl⟩ := exists_of_mem_session hls
    exact Event.filter_reported_five n es
  silent rs ls hls := by
    obtain ⟨es, rfl⟩ := exists_of_mem_session hls
    exact Event.reported_zero es

end Follows

end Console

end HandleBridge
