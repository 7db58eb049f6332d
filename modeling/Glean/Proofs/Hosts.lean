import Glean.Proofs.ReadBack
import Glean.Search

set_option autoImplicit false

/-!
# What hosts refuse

A host only takes away: what it lets pass is what was read, and what it refuses is a fault of how a
run is set up. So two hosts that let the same pass let it mean the same.
-/
namespace Glean

theorem Range.read_eq_error (spec : String) (f : Failure) (h : Range.read spec = .error f) :
    ∃ reason, f = .badRange spec reason := by
  unfold Range.read at h
  split at h
  · contradiction
  · exact ⟨_, (Except.error.inj h).symm⟩

theorem readExclusion_eq_error (pattern : String) (f : Failure)
    (h : readExclusion pattern = .error f) : ∃ reason, f = .badExclusion pattern reason := by
  unfold readExclusion at h
  split at h
  · contradiction
  · exact ⟨_, (Except.error.inj h).symm⟩

namespace Host

variable (host : Host)

section

variable {α : Type} (pattern : String) (failure : String → Failure) (read : Except Failure α)

theorem allow_eq_ok_iff (a : α) :
    host.allow pattern failure read = .ok a ↔ read = .ok a ∧ host.fits pattern = true := by
  cases read with
  | error f => exact ⟨nofun, fun h => nomatch h.1⟩
  | ok b =>
    change (if host.fits pattern then Except.ok b else throw _) = .ok a ↔ _
    cases host.fits pattern with
    | true => simp
    | false => exact ⟨nofun, fun h => nomatch h.2⟩

theorem allow_eq_error_iff (f : Failure) :
    host.allow pattern failure read = .error f ↔ read = .error f ∨
      ((∃ a, read = .ok a) ∧ host.fits pattern = false ∧
        f = failure Pattern.Fault.tooLarge.message) := by
  cases read with
  | error g => exact ⟨.inl, fun h => h.resolve_right fun h => nomatch h.1⟩
  | ok b =>
    change (if host.fits pattern then Except.ok b else .error _) = .error f ↔ _
    cases host.fits pattern <;> simp [eq_comm]

end

theorem readRange_eq_error (spec : String) (f : Failure) (h : host.readRange spec = .error f) :
    ∃ reason, f = .badRange spec reason := by
  rcases (host.allow_eq_error_iff _ _ _ f).mp h with h | ⟨-, -, rfl⟩
  · exact Range.read_eq_error spec f h
  · exact ⟨_, rfl⟩

theorem readExclusion_eq_error (pattern : String) (f : Failure)
    (h : host.readExclusion pattern = .error f) : ∃ reason, f = .badExclusion pattern reason := by
  rcases (host.allow_eq_error_iff _ _ _ f).mp h with h | ⟨-, -, rfl⟩
  · exact Glean.readExclusion_eq_error pattern f h
  · exact ⟨_, rfl⟩

/-- Workers are only missed where a number of jobs other than one is asked for. -/
theorem hire_eq_error_iff (jobs : Option Nat) (f : Failure) :
    host.hire jobs = .error f ↔ ∃ n reason, jobs = some n ∧ n ≠ 1 ∧ host.fault? n = some reason ∧
      f = .badSettings "--jobs" reason := by
  unfold hire
  split
  · simp
  · simp
  · rename_i n hn
    cases hfault : host.fault? n with
    | none => simp [hfault]
    | some reason =>
      have hone : n ≠ 1 := fun h => hn h
      simp [hfault, hone, eq_comm]

end Host

namespace Search

/-- A search fails where its range does, and otherwise where its exclusion does. -/
theorem ofSettings_eq_error_iff (host : Host) (settings : Settings) (f : Failure) :
    ofSettings host settings = .error f ↔
      host.readRange settings.range = .error f ∨
        ∃ range, host.readRange settings.range = .ok range ∧
          ∃ pattern, settings.exclusion = some pattern ∧
            host.readExclusion pattern = .error f := by
  rw [ofSettings, bind_eq_error_iff]
  refine or_congr Iff.rfl (exists_congr fun range => and_congr Iff.rfl ?_)
  cases settings.exclusion with
  | none => exact ⟨nofun, by rintro ⟨_, h, -⟩; contradiction⟩
  | some pattern =>
    dsimp only
    rw [bind_eq_error_iff]
    constructor
    · rintro (h | ⟨_, -, h⟩)
      · exact ⟨pattern, rfl, h⟩
      · contradiction
    · rintro ⟨_, hp, h⟩
      exact .inl (Option.some.inj hp ▸ h)

/-- What is known of a search that was read from settings. -/
theorem ofSettings_eq_ok (host : Host) (settings : Settings) (s : Search)
    (h : ofSettings host settings = .ok s) :
    Range.read settings.range = .ok s.range ∧
      settings.exclusion.mapM readExclusion = .ok s.exclusion ∧
      s.suffixes = settings.suffixes := by
  obtain ⟨range, hrange, h⟩ := (bind_eq_ok_iff _ _ _).mp h
  have hrange := ((host.allow_eq_ok_iff _ _ _ range).mp hrange).1
  cases hexclusion : settings.exclusion with
  | none =>
    rw [hexclusion] at h
    obtain rfl := Except.ok.inj h
    exact ⟨hrange, rfl, rfl⟩
  | some pattern =>
    rw [hexclusion] at h
    obtain ⟨e, he, h⟩ := (bind_eq_ok_iff _ _ _).mp h
    have he := ((host.allow_eq_ok_iff _ _ _ e).mp he).1
    obtain rfl := Except.ok.inj h
    exact ⟨hrange, congrArg (some <$> ·) he, rfl⟩

/-- Settings ask for the same search on every host that lets them pass. -/
theorem ofSettings_unique (host other : Host) (settings : Settings) (s t : Search)
    (hs : ofSettings host settings = .ok s) (ht : ofSettings other settings = .ok t) : s = t := by
  obtain ⟨hrange, hexclusion, hsuffixes⟩ := ofSettings_eq_ok host settings s hs
  obtain ⟨hrange', hexclusion', hsuffixes'⟩ := ofSettings_eq_ok other settings t ht
  obtain ⟨range, exclusion, suffixes⟩ := s
  obtain rfl := Except.ok.inj (hrange.symm.trans hrange')
  obtain rfl := Except.ok.inj (hexclusion.symm.trans hexclusion')
  obtain rfl := hsuffixes.trans hsuffixes'.symm
  rfl

end Search

end Glean
