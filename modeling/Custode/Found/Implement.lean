import Custode.Found.Interleaving

/-!
# Calls that are carried out by programs

A program over one signature becomes one over a lower signature when every call is carried out by a
program of the lower signature (`Program.implement`). Parties that interleave their lower calls are
related to parties that interleave the upper ones.

* `Monitor.Safe.implement`, `Monitor.safe_implement` — safety of the whole from safety of each
  call's program.
* `Runs.implement` — a run of a program is one of its implementation, with each call carried out.
* `Inside impl p doing q` — `q` is what is left of an implemented `p`, which has done `doing` of the
  call it stands at.
* `Simulation` — what the lower calls have to do to the states: nothing that the upper parties see
  while a call is being carried out, and what the upper call does when it has been.
* `Simulation.reach` — then everything that the lower parties reach is matched by what the upper
  ones reach, in every interleaving and under every loss of a party.
-/

namespace Custode.Found

variable {ι Op Op' S S' σ β : Type} {Res : Op → Type} {Res' : Op' → Type} {α : ι → Type}

/-! ## One program -/

namespace Program

variable (impl : (op : Op) → Program Res' (Res op))

/-- Every call is carried out by its program. -/
def implement : Program Res β → Program Res' β
  | ret a => ret a
  | call op k => impl op >>= fun r => implement (k r)

/-- `q` is what is left of the implemented `p` after `doing` of the call that `p` stands at. -/
inductive Inside : Program Res β → List (Event Res') → Program Res' β → Prop
  | returned (a : β) : Inside (ret a) [] (ret a)
  | calling {op : Op} {k : Res op → Program Res β} {doing : List (Event Res')} {op' : Op'}
      {k' : Res' op' → Program Res' (Res op)} (carried : (impl op).Runs doing (call op' k')) :
      Inside (call op k) doing (call op' k' >>= fun r => (k r).implement impl)

variable {impl}

/-- A program that has not started is at the first call of its first call. -/
lemma Inside.start (hcalls : ∀ op r, impl op ≠ ret r) (p : Program Res β) :
    Inside impl p [] (p.implement impl) := by
  cases p with
  | ret a => exact .returned a
  | call op k =>
      rw [implement]
      rcases himpl : impl op with r | ⟨op', k'⟩
      · exact absurd himpl (hcalls op r)
      · exact .calling (himpl ▸ .refl _)

/-- A lower call that a party stands at is one of the call that is being carried out. -/
lemma Inside.of_call {p : Program Res β} {doing : List (Event Res')} {op' : Op'}
    {rest : Res' op' → Program Res' β} (h : Inside impl p doing (call op' rest)) :
    ∃ op k k', p = call op k ∧ (impl op).Runs doing (call op' k') ∧
      ∀ r', rest r' = k' r' >>= fun r => (k r).implement impl := by
  generalize hq : call op' rest = q at h
  cases h with
  | returned a => cases hq
  | calling carried =>
      rw [call_bind] at hq
      cases hq
      exact ⟨_, _, _, rfl, carried, fun _ => rfl⟩

variable (impl) in
/-- Lower events with which the upper ones are carried out, one after another. -/
inductive Carried : List (Event Res) → List (Event Res') → Prop
  | nil : Carried [] []
  | cons {op : Op} {r : Res op} {done : List (Event Res')} {tr : List (Event Res)}
      {low : List (Event Res')} (call : (impl op).Runs done (ret r)) (rest : Carried tr low) :
      Carried (⟨op, r⟩ :: tr) (done ++ low)

/-- One more call, carried out in full. -/
lemma Carried.snoc {op : Op} {r : Res op} {done : List (Event Res')} {tr : List (Event Res)}
    {low : List (Event Res')} (h : Carried impl tr low) (hcall : (impl op).Runs done (ret r)) :
    Carried impl (tr ++ [⟨op, r⟩]) (low ++ done) := by
  induction h with
  | nil =>
      have hone := Carried.cons hcall Carried.nil
      rwa [List.append_nil] at hone
  | cons call _ ih =>
      rw [List.cons_append, List.append_assoc]
      exact .cons call ih

/-- What a program can do, its implementation can do. -/
lemma Runs.implement {p q : Program Res β} {tr : List (Event Res)} {low : List (Event Res')}
    (h : p.Runs tr q) (hcarried : Carried impl tr low) :
    (p.implement impl).Runs low (q.implement impl) := by
  induction h generalizing low with
  | refl =>
      cases hcarried
      exact .refl _
  | step _ ih =>
      cases hcarried with
      | cons call rest => exact call.bind (ih rest)

end Program

/-- A program is safe when the program of each call takes the monitor where the call does. -/
theorem Monitor.Safe.implement {M : Monitor Res σ} {M' : Monitor Res' σ}
    {impl : (op : Op) → Program Res' (Res op)}
    (himpl : ∀ s op, M.Ready s op → M'.Safe (impl op) (fun r s' => s' = M.observe s ⟨op, r⟩) s)
    {p : Program Res β} {Q : β → σ → Prop} {s : σ} (h : M.Safe p Q s) :
    M'.Safe (p.implement impl) Q s := by
  induction p generalizing s with
  | ret a => exact h
  | call op k ih =>
      rw [Program.implement, Monitor.safe_bind]
      apply (himpl s op h.1).mono
      rintro r _ rfl
      exact ih r (h.2 r)

/-- A program is safe when the program of each call is, whatever was observed before. -/
theorem Monitor.safe_implement {M : Monitor Res' σ} {impl : (op : Op) → Program Res' (Res op)}
    (himpl : ∀ op s, M.Safe (impl op) (fun _ _ => True) s) (p : Program Res β) (s : σ) :
    M.Safe (p.implement impl) (fun _ _ => True) s := by
  induction p generalizing s with
  | ret a => trivial
  | call op k ih => exact (himpl op s).bind fun r s' _ => ih r s'

/-! ## Interleaved programs -/

section Interleaved

variable [DecidableEq ι] (impl : (op : Op) → Program Res' (Res op)) (A : Arena ι Res S)
  (B : Arena ι Res' S') (progs : (i : ι) → Program Res (α i)) (s₀ : S)

/-- A lower party has carried out the calls of the upper one, and then some of the call that it
stands at. -/
structure Carries {β : Type} (history : List (Event Res)) (rest : Program Res β)
    (history' : List (Event Res')) (rest' : Program Res' β) (low part : List (Event Res')) :
    Prop where
  carried : Program.Carried impl history low
  history : history' = low ++ part
  inside : Program.Inside impl rest part rest'

/-- The lower configuration is the upper one in the middle of the calls that `doing` belongs to. -/
structure Matches (f : Config α Res' S') (c : Config α Res S) (doing : ι → List (Event Res')) :
    Prop where
  dropped : f.dropped = c.dropped
  party : ∀ i, ∃ low part,
    Carries impl (c.history i) (c.rest i) (f.history i) (f.rest i) low part ∧
      (c.dropped i = false → part = doing i)

/-- The lower states are related to the upper configurations, and what is being done. -/
abbrev Coupling (α : ι → Type) (Res : Op → Type) (Res' : Op' → Type) (S S' : Type) :=
  S' → Config α Res S → (ι → List (Event Res')) → Prop

/-- A lower call keeps the coupling: unseen while the upper call is being carried out, together with
the upper call when it is the last, and with the upper drop when its party is dropped in it. -/
structure Simulation (R : Coupling α Res Res' S S') : Prop where
  calls : ∀ op r, impl op ≠ .ret r
  inner : ∀ {turns c t doing i op k op' k'} {r' : Res' op'} {t'}, Reach A progs s₀ turns c →
    R t c doing → c.dropped i = false → c.rest i = .call op k →
    (impl op).Runs (doing i) (.call op' k') → (k' r').next ≠ none → B.exec i t ⟨op', r'⟩ t' →
    R t' c (Function.update doing i (doing i ++ [⟨op', r'⟩]))
  done : ∀ {turns c t doing i op k op' k'} {r' : Res' op'} {r : Res op} {t'},
    Reach A progs s₀ turns c → R t c doing → c.dropped i = false → c.rest i = .call op k →
    (impl op).Runs (doing i) (.call op' k') → k' r' = .ret r → B.exec i t ⟨op', r'⟩ t' →
    ∃ s, A.exec i c.shared ⟨op, r⟩ s ∧
      R t' (c.advance i ⟨op, r⟩ (k r) s) (Function.update doing i [])
  drop : ∀ {turns c t doing i op k op'} {k' : Res' op' → Program Res' (Res op)},
    Reach A progs s₀ turns c → R t c doing → c.dropped i = false → c.rest i = .call op k →
    (impl op).Runs (doing i) (.call op' k') → B.Cancellable i op' →
    A.Cancellable i op ∧
      R (B.release i t) (c.lose i (A.release i c.shared)) (Function.update doing i [])

variable {impl A B progs s₀} {f : Config α Res' S'} {c : Config α Res S}
  {doing : ι → List (Event Res')} {i : ι}

namespace Matches

omit [DecidableEq ι] in
/-- Nothing has happened on either side. -/
lemma start (hcalls : ∀ op r, impl op ≠ .ret r) (t₀ : S') :
    Matches impl (.start (fun i => (progs i).implement impl) t₀) (.start progs s₀) fun _ => [] where
  dropped := rfl
  party i := ⟨[], [], ⟨.nil, rfl, .start hcalls (progs i)⟩, fun _ => rfl⟩

omit [DecidableEq ι] in
/-- A party that was not dropped is in the middle of its call. -/
lemma live (h : Matches impl f c doing) (hlive : c.dropped i = false) :
    ∃ low, Carries impl (c.history i) (c.rest i) (f.history i) (f.rest i) low (doing i) := by
  obtain ⟨low, part, hcarries, hpart⟩ := h.party i
  exact ⟨low, hpart hlive ▸ hcarries⟩

/-- One party goes on. -/
lemma update (h : Matches impl f c doing) {f' : Config α Res' S'} {c' : Config α Res S}
    {tr low part : List (Event Res')} (hdropped : f'.dropped = c'.dropped)
    (hlive : ∀ j, c'.dropped j = false → c.dropped j = false)
    (hother : ∀ j, j ≠ i → f'.rest j = f.rest j ∧ f'.history j = f.history j ∧
      c'.rest j = c.rest j ∧ c'.history j = c.history j)
    (hnow : Carries impl (c'.history i) (c'.rest i) (f'.history i) (f'.rest i) low part)
    (hpart : c'.dropped i = false → part = tr) :
    Matches impl f' c' (Function.update doing i tr) := by
  refine ⟨hdropped, ?_⟩
  intro j
  by_cases hji : j = i
  · subst hji
    rw [Function.update_self]
    exact ⟨low, part, hnow, hpart⟩
  · obtain ⟨hrest', hhistory', hrest, hhistory⟩ := hother j hji
    obtain ⟨low, part, hcarries, hsame⟩ := h.party j
    rw [Function.update_of_ne hji, hrest', hhistory', hrest, hhistory]
    exact ⟨low, part, hcarries, fun hj => hsame (hlive j hj)⟩

end Matches

/-- One step of the lower parties. -/
lemma Simulation.step {R : Coupling α Res Res' S S'} (h : Simulation impl A B progs s₀ R)
    {turns : List (Turn ι Res)} (hreach : Reach A progs s₀ turns c)
    (hmatch : Matches impl f c doing)
    (hR : R f.shared c doing) {t : Turn ι Res'} {f' : Config α Res' S'} (hstep : Step B f t f') :
    ∃ turns' c' doing', Reach A progs s₀ turns' c' ∧ Matches impl f' c' doing' ∧
      R f'.shared c' doing' := by
  cases hstep with
  | @call i op' rest r' t' live head answer =>
      have hlive : c.dropped i = false := hmatch.dropped ▸ live
      obtain ⟨low, hcarried, hhistory, hinside⟩ := hmatch.live hlive
      rw [head] at hinside
      obtain ⟨op, k, k', hrest, hruns, hnext⟩ := hinside.of_call
      have hother : ∀ j, j ≠ i → (f.advance i ⟨op', r'⟩ (rest r') t').rest j = f.rest j ∧
          (f.advance i ⟨op', r'⟩ (rest r') t').history j = f.history j :=
        fun j hj => ⟨Function.update_of_ne hj _ _, Function.update_of_ne hj _ _⟩
      have hhistory' : (f.advance i ⟨op', r'⟩ (rest r') t').history i =
          low ++ (doing i ++ [⟨op', r'⟩]) := by
        simp [Config.advance, hhistory]
      have hcarriedOut := hruns.snoc r'
      rcases hlast : k' r' with r | ⟨op'', k''⟩
      · -- the last lower call of the upper one
        obtain ⟨s, hexec, hR'⟩ := h.done hreach hR hlive hrest hruns hlast answer
        refine ⟨_, _, _, hreach.step (.call hlive hrest hexec), ?_, hR'⟩
        refine hmatch.update hmatch.dropped (fun _ hj => hj)
          (fun j hj => ⟨(hother j hj).1, (hother j hj).2, Function.update_of_ne hj _ _,
            Function.update_of_ne hj _ _⟩)
          ⟨?_, hhistory'.trans (List.append_nil _).symm, ?_⟩ fun _ => rfl
        · rw [hlast] at hcarriedOut
          simpa [Config.advance] using hcarried.snoc hcarriedOut
        · simp only [Config.advance, Function.update_self, hnext, hlast]
          exact .start h.calls (k r)
      · have hR' := h.inner hreach hR hlive hrest hruns (by simp [hlast, Program.next]) answer
        refine ⟨_, c, _, hreach, ?_, hR'⟩
        refine hmatch.update hmatch.dropped (fun _ hj => hj)
          (fun j hj => ⟨(hother j hj).1, (hother j hj).2, rfl, rfl⟩) ⟨hcarried, hhistory', ?_⟩
          fun _ => rfl
        rw [hlast] at hcarriedOut
        simp only [Config.advance, Function.update_self, hnext, hlast, hrest]
        exact .calling hcarriedOut
  | @drop i op' rest live head await =>
      have hlive : c.dropped i = false := hmatch.dropped ▸ live
      obtain ⟨low, hcarries⟩ := hmatch.live hlive
      have hinside := hcarries.inside
      rw [head] at hinside
      obtain ⟨op, k, k', hrest, hruns, -⟩ := hinside.of_call
      obtain ⟨hcancellable, hR'⟩ := h.drop hreach hR hlive hrest hruns await
      refine ⟨_, _, _, hreach.step (.drop hlive hrest hcancellable), ?_, hR'⟩
      refine hmatch.update (by simp [Config.lose, hmatch.dropped]) ?_
        (fun _ _ => ⟨rfl, rfl, rfl, rfl⟩) hcarries ?_
      · intro j hj
        by_cases hji : j = i
        · exact hji ▸ hlive
        · simpa [Config.lose, Function.update_of_ne hji] using hj
      · intro hj
        simp [Config.lose] at hj

/-- **Implementation.** What the lower parties reach is matched by what the upper ones reach. -/
theorem Simulation.reach {R : Coupling α Res Res' S S'} (h : Simulation impl A B progs s₀ R)
    {t₀ : S'} (hstart : R t₀ (.start progs s₀) fun _ => []) {turns : List (Turn ι Res')}
    (hreach : Reach B (fun i => (progs i).implement impl) t₀ turns f) :
    ∃ turns' c doing, Reach A progs s₀ turns' c ∧ Matches impl f c doing ∧ R f.shared c doing := by
  induction hreach with
  | start => exact ⟨[], _, _, .start, .start h.calls t₀, hstart⟩
  | step _ now ih =>
      obtain ⟨turns', c, doing, hreach', hmatch, hR⟩ := ih
      exact h.step hreach' hmatch hR now

end Interleaved

end Custode.Found
