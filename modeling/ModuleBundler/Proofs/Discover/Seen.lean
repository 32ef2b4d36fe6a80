import ModuleBundler.Proofs.Discover.Request

/-!
What an externals plugin has seen when files have been read. The hooks note for it every request that it
wants, each once and in ascending order, whatever their other taps do.
-/

namespace ModuleBundler

namespace Session

variable {name other : String} {names : List String}

theorem mem_placeName : other ∈ placeName name names ↔ other = name ∨ other ∈ names := by
  induction names with
  | nil => simp [placeName]
  | cons first names ih =>
    unfold placeName
    split
    · rw [List.mem_cons, ih, List.mem_cons, or_left_comm]
    · split
      · rename_i same
        rw [List.mem_cons, same, or_self_left]
      · rw [List.mem_cons]

theorem ascending_placeName (ascending : names.Pairwise (· < ·)) :
    (placeName name names).Pairwise (· < ·) := by
  induction names with
  | nil => simp [placeName]
  | cons first names ih =>
    obtain ⟨above, later⟩ := List.pairwise_cons.1 ascending
    unfold placeName
    split
    · rename_i below
      refine List.pairwise_cons.2 ⟨fun other member => ?_, ih later⟩
      rcases mem_placeName.1 member with rfl | old
      · exact below
      · exact above other old
    · split
      · exact ascending
      · rename_i notBelow different
        have least : name < first := String.not_le.1 fun notAbove =>
          different (String.le_antisymm notAbove (String.not_lt.1 notBelow))
        refine List.pairwise_cons.2 ⟨fun other member => ?_, ascending⟩
        rcases List.mem_cons.1 member with rfl | old
        · exact least
        · exact String.lt_trans least (above other old)

def noted (wanted : String → Bool) (requests seen : List String) : List String :=
  (requests.filter wanted).foldl (fun seen request => placeName request seen) seen

theorem noted_cons (wanted : String → Bool) (request : String) (requests seen : List String) :
    noted wanted (request :: requests) seen =
      noted wanted requests (if wanted request then placeName request seen else seen) := by
  unfold noted
  rw [List.filter_cons]
  split <;> rfl

theorem noted_append (wanted : String → Bool) (front back seen : List String) :
    noted wanted (front ++ back) seen = noted wanted back (noted wanted front seen) := by
  rw [noted, List.filter_append, List.foldl_append]
  rfl

theorem mem_noted {wanted : String → Bool} {requests seen : List String} :
    name ∈ noted wanted requests seen ↔ name ∈ seen ∨ name ∈ requests ∧ wanted name = true := by
  induction requests generalizing seen with
  | nil => simp [noted]
  | cons request requests ih =>
    rw [noted_cons, ih]
    by_cases asked : wanted request = true
    · rw [if_pos asked, mem_placeName, List.mem_cons]
      constructor
      · rintro ((rfl | old) | later)
        · exact .inr ⟨.inl rfl, asked⟩
        · exact .inl old
        · exact .inr ⟨.inr later.1, later.2⟩
      · rintro (old | ⟨rfl | later, own⟩)
        · exact .inl (.inr old)
        · exact .inl (.inl rfl)
        · exact .inr ⟨later, own⟩
    · rw [if_neg asked, List.mem_cons]
      refine or_congr_right (and_congr_left fun own => ?_)
      exact ⟨.inr, fun either => either.resolve_left fun same => asked (same ▸ own)⟩

theorem ascending_noted (wanted : String → Bool) (requests : List String) {seen : List String}
    (ascending : seen.Pairwise (· < ·)) : (noted wanted requests seen).Pairwise (· < ·) := by
  induction requests generalizing seen with
  | nil => exact ascending
  | cons request requests ih =>
    rw [noted_cons]
    refine ih ?_
    split
    · exact ascending_placeName ascending
    · exact ascending

end Session

variable {ω : Type}

structure ImportHooks.Note (hooks : ImportHooks (Session ω)) (number : Nat) (wanted : String → Bool) :
    Prop where
  requireCall : ∀ call session after, hooks.requireCall.show call session = .ok () after →
    after.seen number = Session.noted wanted [call.request] (session.seen number)
  factorize : ∀ data session, (hooks.factorize.ask data session).2.seen number = session.seen number

variable {number : Nat} {wanted : String → Bool}

/-- Every request of a file is noted, in order. -/
theorem Import.seen_of_resolveSites {around : Surroundings (Session ω)}
    (note : around.hooks.Note number wanted) {module : Path} {source : List Char}
    {sites : List Script.CallSite} {start final : Session ω} {found : List Resolved}
    (resolved : resolveSites around module source sites start = .ok found final) :
    final.seen number = Session.noted wanted (sites.filterMap request?) (start.seen number) := by
  induction sites generalizing start found with
  | nil =>
    obtain ⟨-, rfl⟩ := pure_eq_ok.1 resolved
    rfl
  | cons site sites ih =>
    unfold resolveSites at resolved
    obtain ⟨first, middle, head, remaining⟩ := bind_eq_ok.1 resolved
    obtain ⟨others, _, tail, ending⟩ := bind_eq_ok.1 remaining
    obtain ⟨-, rfl⟩ := pure_eq_ok.1 ending
    obtain ⟨request, argument, given, -, -, resolving⟩ := resolveSite_eq_ok head
    obtain ⟨shown, answer, showing, asked, -⟩ := resolve_eq_ok_iff.1 resolving
    have own : request? site = some request := by rw [request?, given]
    have kept := note.factorize { request, context := module.parent?.getD ⟨"."⟩ } shown
    rw [asked] at kept
    rw [ih tail, List.filterMap_cons_some own, ← List.singleton_append, Session.noted_append, kept,
      note.requireCall _ _ _ showing]

namespace Discover

variable {setup : Setup (Session ω)} (note : setup.around.hooks.Note number wanted)
include note

theorem Reading.Takes.seen {reading : Reading} {before after : Session ω}
    (takes : reading.Takes setup before after) :
    after.seen number = Session.noted wanted (setup.requests reading.path) (before.seen number) := by
  obtain ⟨text, program, resolving, requests⟩ := takes.exists_program
  rw [requests]
  exact Import.seen_of_resolveSites note resolving

theorem Readings.seen {readings : List Reading} {before after : Session ω}
    (chain : Readings setup readings before after) :
    after.seen number = Session.noted wanted
      (readings.flatMap fun reading => setup.requests reading.path) (before.seen number) := by
  induction chain with
  | done => rfl
  | next first _ ih => rw [ih, first.seen note, List.flatMap_cons, Session.noted_append]

end Discover

end ModuleBundler
