import Mathlib
import PatternGuard.Config
import PatternGuard.Proofs.Value

namespace PatternGuard.Config

structure Valid (c : Config) : Prop where
  maxLength : 0 < c.maxLength
  timeoutMs : 0 < c.timeoutMs
  maxBacktrackDepth : 0 < c.maxBacktrackDepth

/-- The fields of a configuration, by the type of what they hold. -/
inductive Field : Type → Type 1
  | maxLength : Field Nat
  | timeoutMs : Field Nat
  | maxBacktrackDepth : Field Nat
  | onBlock : Field (Option Callback)
  | onWarning : Field (Option Callback)

variable {α : Type} {c : Config} {es es' o : Keyed Setting}

namespace Field

def key : Field α → String
  | .maxLength => "max_length"
  | .timeoutMs => "timeout_ms"
  | .maxBacktrackDepth => "max_backtrack_depth"
  | .onBlock => "on_block"
  | .onWarning => "on_warning"

def get : Field α → Config → α
  | .maxLength => Config.maxLength
  | .timeoutMs => Config.timeoutMs
  | .maxBacktrackDepth => Config.maxBacktrackDepth
  | .onBlock => Config.onBlock
  | .onWarning => Config.onWarning

def read : Field α → Setting → Except Problem α
  | .maxLength => Setting.limit
  | .timeoutMs => Setting.limit
  | .maxBacktrackDepth => Setting.limit
  | .onBlock => Setting.hook
  | .onWarning => Setting.hook

def give : Field α → α → Setting
  | .maxLength => Setting.ofLimit
  | .timeoutMs => Setting.ofLimit
  | .maxBacktrackDepth => Setting.ofLimit
  | .onBlock => Setting.ofHook
  | .onWarning => Setting.ofHook

def readFrom (f : Field α) (es : Keyed Setting) : Except Problem α :=
  readKey es f.key (f.get standard) f.read

theorem get?_settings (f : Field α) (c : Config) :
    c.settings.get? f.key = some (f.give (f.get c)) := by
  cases f <;> rfl

theorem readFrom_update (hkeys : (Keyed.keys o).Nodup) (f : Field α) (es : Keyed Setting) :
    f.readFrom (es.update o) =
      match o.get? f.key with
      | none => f.readFrom es
      | some s => f.read s := by
  rw [readFrom, readKey, Keyed.get?_update hkeys]
  cases o.get? f.key <;> rfl

end Field

theorem limit_pos {s : Setting} {n : Nat} (h : s.limit = .ok n) : 0 < n := by
  simp only [Setting.limit, bind, Except.bind] at h
  split at h
  · cases h
  · split_ifs at h with hpos
    cases h
    omega

theorem limit_ofLimit {n : Nat} (h : 0 < n) : (Setting.ofLimit n).limit = .ok n := by
  have hlimit : (Setting.ofLimit n).limit =
      if (0 : Int) < n then .ok n else .error .notPositive := rfl
  rw [hlimit, if_pos (Int.natCast_pos.2 h)]

theorem hook_ofHook (callback : Option Callback) :
    (Setting.ofHook callback).hook = .ok callback := by
  cases callback <;> rfl

theorem Valid.read_give (h : c.Valid) (f : Field α) :
    f.read (f.give (f.get c)) = .ok (f.get c) := by
  cases f with
  | maxLength => exact limit_ofLimit h.maxLength
  | timeoutMs => exact limit_ofLimit h.timeoutMs
  | maxBacktrackDepth => exact limit_ofLimit h.maxBacktrackDepth
  | onBlock => exact hook_ofHook c.onBlock
  | onWarning => exact hook_ofHook c.onWarning

theorem Valid.readFrom_settings (h : c.Valid) (f : Field α) :
    f.readFrom c.settings = .ok (f.get c) := by
  rw [Field.readFrom, readKey, f.get?_settings]
  exact h.read_give f

def issues (es : Keyed Setting) : List Issue :=
  issuesAt Field.maxLength.key (Field.maxLength.readFrom es)
    ++ issuesAt Field.timeoutMs.key (Field.timeoutMs.readFrom es)
    ++ issuesAt Field.maxBacktrackDepth.key (Field.maxBacktrackDepth.readFrom es)
    ++ issuesAt Field.onBlock.key (Field.onBlock.readFrom es)
    ++ issuesAt Field.onWarning.key (Field.onWarning.readFrom es) ++ unknownKeys es

theorem issuesAt_eq_nil_iff {key : String} {r : Except Problem α} :
    issuesAt key r = [] ↔ ∃ a, r = .ok a := by
  cases r <;> simp [issuesAt]

theorem ofSettings_eq_ok_iff :
    ofSettings es = .ok c ↔
      unknownKeys es = [] ∧ ∀ {α : Type} (f : Field α), f.readFrom es = .ok (f.get c) := by
  constructor
  · intro h
    unfold ofSettings at h
    dsimp only at h
    split at h
    · rename_i hissues hlength htimeout hdepth hblock hwarning
      cases h
      simp only [List.append_eq_nil_iff] at hissues
      refine ⟨hissues.2, fun f => ?_⟩
      cases f with
      | maxLength => exact hlength
      | timeoutMs => exact htimeout
      | maxBacktrackDepth => exact hdepth
      | onBlock => exact hblock
      | onWarning => exact hwarning
    · cases h
  · rintro ⟨hunknown, hfields⟩
    have hlength : readKey es "max_length" standard.maxLength Setting.limit = .ok c.maxLength :=
      hfields .maxLength
    have htimeout : readKey es "timeout_ms" standard.timeoutMs Setting.limit = .ok c.timeoutMs :=
      hfields .timeoutMs
    have hdepth : readKey es "max_backtrack_depth" standard.maxBacktrackDepth Setting.limit =
        .ok c.maxBacktrackDepth := hfields .maxBacktrackDepth
    have hblock : readKey es "on_block" standard.onBlock Setting.hook = .ok c.onBlock :=
      hfields .onBlock
    have hwarning : readKey es "on_warning" standard.onWarning Setting.hook = .ok c.onWarning :=
      hfields .onWarning
    simp only [ofSettings, hlength, htimeout, hdepth, hblock, hwarning, hunknown]
    rfl

theorem issues_of_ofSettings {found : List Issue} (h : ofSettings es = .error found) :
    found = issues es ∧ found ≠ [] := by
  unfold ofSettings at h
  dsimp only at h
  split at h
  · cases h
  · rename_i hread
    cases h
    refine ⟨rfl, fun hnone => ?_⟩
    -- Without issues every field is read, and the first case would have applied.
    have hfields := hnone
    simp only [List.append_eq_nil_iff, issuesAt_eq_nil_iff] at hfields
    obtain ⟨⟨⟨⟨⟨⟨a, ha⟩, b, hb⟩, c, hc⟩, d, hd⟩, e, he⟩, -⟩ := hfields
    exact hread a b c d e hnone ha hb hc hd he

theorem ofSettings_congr (hfields : ∀ {α : Type} (f : Field α), f.readFrom es = f.readFrom es')
    (hunknown : unknownKeys es = unknownKeys es') : ofSettings es = ofSettings es' := by
  have hok : ∀ c, ofSettings es = .ok c ↔ ofSettings es' = .ok c := by
    intro c
    simp only [ofSettings_eq_ok_iff, hfields, hunknown]
  cases hread : ofSettings es with
  | ok c => exact ((hok c).1 hread).symm
  | error found =>
    cases hread' : ofSettings es' with
    | ok c => exact absurd ((hok c).2 hread') (by simp [hread])
    | error found' =>
      rw [(issues_of_ofSettings hread).1, (issues_of_ofSettings hread').1]
      simp only [issues, hfields, hunknown]

theorem ofSettings_valid (h : ofSettings es = .ok c) : c.Valid := by
  obtain ⟨-, hfields⟩ := ofSettings_eq_ok_iff.1 h
  -- A limit that is not among the settings has its standard value, which is positive.
  have hpos : ∀ f : Field Nat, f.read = Setting.limit → 0 < f.get standard → 0 < f.get c := by
    intro f hread hstandard
    have hf := hfields f
    rw [Field.readFrom, readKey] at hf
    split at hf
    · exact Except.ok.inj hf ▸ hstandard
    · rw [hread] at hf
      exact limit_pos hf
  exact ⟨hpos .maxLength rfl (by decide), hpos .timeoutMs rfl (by decide),
    hpos .maxBacktrackDepth rfl (by decide)⟩

theorem declared_issues_sublist (es : Keyed Setting) :
    ∃ declared : List Issue, issues es = declared ++ unknownKeys es ∧
      (declared.map (·.key)).Sublist keys := by
  refine ⟨_, rfl, ?_⟩
  have hat : ∀ {α : Type} (f : Field α),
      ((issuesAt f.key (f.readFrom es)).map (·.key)).Sublist [f.key] := by
    intro α f
    cases f.readFrom es with
    | ok a => exact List.nil_sublist _
    | error p => exact List.Sublist.refl _
  simp only [List.map_append]
  exact ((((hat .maxLength).append (hat .timeoutMs)).append (hat .maxBacktrackDepth)).append
    (hat .onBlock)).append (hat .onWarning)

theorem unknownKeys_settings (c : Config) : unknownKeys c.settings = [] := rfl

theorem unknownKeys_update (hes : unknownKeys es = []) (ho : o.keys.Nodup) :
    unknownKeys (es.update o) = unknownKeys o := by
  simp only [unknownKeys, List.map_eq_nil_iff, List.filter_eq_nil_iff] at hes ⊢
  rw [Keyed.keys_update ho, List.filter_append, List.filter_eq_nil_iff.2 hes, List.nil_append,
    List.filter_filter]
  congr 1
  apply List.filter_congr
  intro k _
  by_cases hk : k ∈ es.keys
  · have hknown : k ∈ keys := by simpa using hes k hk
    simp [hk, hknown]
  · simp [hk]

variable {b : Config} {o₁ o₂ : Keyed Setting}

theorem merge_nil (h : c.Valid) : c.merge [] = .ok c :=
  ofSettings_eq_ok_iff.2 ⟨unknownKeys_settings c, h.readFrom_settings⟩

theorem merge_valid (h : b.merge o = .ok c) : c.Valid := ofSettings_valid h

theorem unknownKeys_of_merge (ho : o.keys.Nodup) (h : b.merge o = .ok c) : unknownKeys o = [] := by
  rw [← unknownKeys_update (unknownKeys_settings b) ho]
  exact (ofSettings_eq_ok_iff.1 h).1

theorem merge_error {found : List Issue} (ho : o.keys.Nodup) (h : b.merge o = .error found) :
    found ≠ [] ∧ ∃ declared : List Issue,
      found = declared ++ unknownKeys o ∧ (declared.map (·.key)).Sublist keys := by
  obtain ⟨rfl, hne⟩ := issues_of_ofSettings h
  rw [← unknownKeys_update (unknownKeys_settings b) ho]
  exact ⟨hne, declared_issues_sublist _⟩

theorem merge_merge (ho₁ : o₁.keys.Nodup) (ho₂ : o₂.keys.Nodup) (h : b.merge o₁ = .ok c) :
    c.merge o₂ = b.merge (o₁.update o₂) := by
  have ho : (o₁.update o₂).keys.Nodup := Keyed.nodup_keys_update ho₁ ho₂
  apply ofSettings_congr
  · intro α f
    have hfirst : f.readFrom (b.settings.update o₁) = .ok (f.get c) :=
      (ofSettings_eq_ok_iff.1 h).2 f
    rw [Field.readFrom_update ho₁] at hfirst
    rw [Field.readFrom_update ho₂, Field.readFrom_update ho, Keyed.get?_update ho₂,
      (merge_valid h).readFrom_settings]
    cases o₂.get? f.key with
    | some s => rfl
    | none => exact hfirst.symm
  · rw [unknownKeys_update (unknownKeys_settings c) ho₂,
      unknownKeys_update (unknownKeys_settings b) ho,
      unknownKeys_update (unknownKeys_of_merge ho₁ h) ho₂]

def mergeKept (c : Config) (o : Keyed Setting) : Config :=
  match c.merge o with
  | .ok merged => merged
  | .error _ => c

def mergeAll (c : Config) (os : List (Keyed Setting)) : Config := os.foldl mergeKept c

/-- The overrides that merge, each on what those before it made of the configuration. -/
def succeeding (c : Config) : List (Keyed Setting) → List (Keyed Setting)
  | [] => []
  | o :: os =>
    match c.merge o with
    | .ok merged => o :: merged.succeeding os
    | .error _ => c.succeeding os

/-- All overrides in one, the later over the earlier. -/
def joined (os : List (Keyed Setting)) : Keyed Setting := os.foldl Keyed.update []

theorem mergeKept_valid (h : c.Valid) (o : Keyed Setting) : (c.mergeKept o).Valid := by
  rw [mergeKept]
  split
  · rename_i hmerge
    exact merge_valid hmerge
  · exact h

theorem mergeAll_valid (h : c.Valid) (os : List (Keyed Setting)) : (c.mergeAll os).Valid := by
  induction os generalizing c with
  | nil => exact h
  | cons o os ih => exact ih (mergeKept_valid h o)

theorem mergeKept_of_error {found : List Issue} (h : c.merge o = .error found) :
    c.mergeKept o = c := by
  rw [mergeKept, h]

theorem merge_foldl_succeeding {os : List (Keyed Setting)} (hos : ∀ o ∈ os, o.keys.Nodup)
    (ho : o.keys.Nodup) (h : b.merge o = .ok c) :
    b.merge ((c.succeeding os).foldl Keyed.update o) = .ok (c.mergeAll os) := by
  -- The induction is on the overrides that are left, for any `o` that led to `c`.
  induction os generalizing o c with
  | nil => exact h
  | cons o' os ih =>
    obtain ⟨ho', hos⟩ := List.forall_mem_cons.1 hos
    rw [mergeAll, List.foldl_cons, mergeKept, succeeding]
    cases hmerge : c.merge o' with
    | error found => exact ih hos ho h
    | ok merged =>
      rw [merge_merge ho ho' h] at hmerge
      exact ih hos (Keyed.nodup_keys_update ho ho') hmerge

theorem merge_joined_succeeding {os : List (Keyed Setting)} (hb : b.Valid)
    (hos : ∀ o ∈ os, o.keys.Nodup) :
    b.merge (joined (b.succeeding os)) = .ok (b.mergeAll os) :=
  merge_foldl_succeeding hos List.nodup_nil (merge_nil hb)

end PatternGuard.Config
