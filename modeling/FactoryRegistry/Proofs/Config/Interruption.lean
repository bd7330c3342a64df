import FactoryRegistry.Proofs.Config.Frame

/-!
# Merges that end before their time

Reading a file comes before merging its document, so a file that cannot be read changes nothing. The
merge itself ends early for two reasons only (`mergeMapping_interrupts`): its source grows while it
is read, or it goes round in mappings that stand inside themselves. Neither happens if every mapping
that the document is merged into stands at one place. So a merge that fails leaves a reachable
configuration as it was, or else such a mapping stands at two places or inside itself
(`failed_mergeFile_changes_nothing`). Then a merge may stop halfway
(`interrupted_merge_leaves_changes`).
-/

namespace FactoryRegistry

/-- A failure is a fault about a configuration. -/
def Failure.isConfigFault : Failure → Bool
  | fault (.configMissing _) | fault (.configInvalid _ _) => true
  | _ => false

/-- The failure ends a merge among the entries of a document. -/
def Failure.interrupts : Failure → Bool
  | mappingChanged | endless => true
  | _ => false

namespace Value

variable {inner : Value → Value → Merge} {failure : Failure}

/-- Merging an entry ends early only where merging mappings does. -/
theorem mergeEntry_interrupts
    (hinner : ∀ t s failure, (inner t s).1 = .error failure → failure.interrupts = true)
    (target : Value) (k : Scalar) (v : Value)
    (h : (mergeEntry inner target k v).1 = .error failure) : failure.interrupts = true := by
  rw [mergeEntry.eq_def] at h
  split at h
  · exact hinner _ _ _ h
  · cases h
  · cases h

/-- Merging entries ends early only where the source has grown, or merging one of them ends
early. -/
theorem mergeEntries_interrupts
    (hinner : ∀ t s failure, (inner t s).1 = .error failure → failure.interrupts = true)
    (size left : Nat) (target source : Value)
    (h : (mergeEntries inner size left target source).1 = .error failure) :
    failure.interrupts = true := by
  induction left generalizing target source with
  | zero =>
    rw [mergeEntries.eq_def] at h
    split at h <;> cases h
    rfl
  | succ left ih =>
    rw [mergeEntries.eq_def] at h
    split at h
    · cases h
      rfl
    · dsimp only at h
      split at h
      · cases h
      next key value _ =>
        -- either the first entry fails or one of the others does
        split at h
        next hentry =>
          cases h
          exact mergeEntry_interrupts hinner target key value (congrArg Prod.fst hentry)
        next => exact ih _ _ h

/-- A merge ends early only where a mapping changes that it reads, or where it has no end. -/
theorem mergeMapping_interrupts (fuel : Nat) (target source : Value)
    (h : (mergeMapping fuel target source).1 = .error failure) : failure.interrupts = true := by
  induction fuel generalizing target source failure with
  | zero =>
    cases h
    rfl
  | succ fuel ih => exact mergeEntries_interrupts (fun t s _ => ih t s) _ _ target source h

end Value

namespace Config.Configuration

open Value

variable {fs : FileSystem} {path : Path} {c : Configuration} {doc : Value} {next : Nat}
  {failure : Failure} {depth : Nat}

/-- What merging a file comes to: reading its document fails, or the document is a mapping and is
merged, or there is none, or it is something else. Only a merge changes the configuration. -/
theorem mergeFile_cases (fs : FileSystem) (path : Path) (c : Configuration) (depth : Nat) :
    (∃ failure, readDocument fs path c.next = .error failure ∧
        c.mergeFile fs path depth = (.error failure, c)) ∨
      (∃ doc next, readDocument fs path c.next = .ok (doc, next) ∧
        c.mergeFile fs path depth = c.merge doc next depth) ∨
      c.mergeFile fs path depth = (.ok (), c) ∨
      c.mergeFile fs path depth = (invalid path.text "top level must be a mapping", c) := by
  rw [mergeFile]
  cases readDocument fs path c.next with
  | error failure => exact .inl ⟨failure, rfl, rfl⟩
  | ok result =>
    obtain ⟨doc, next⟩ := result
    cases doc with
    | map label entries => exact .inr (.inl ⟨_, next, rfl, rfl⟩)
    | scalar s =>
      cases s with
      | null => exact .inr (.inr (.inl rfl))
      | _ => exact .inr (.inr (.inr rfl))
    | _ => exact .inr (.inr (.inr rfl))

/-- Merging a document ends early only where a merge does. -/
theorem merge_interrupts (h : (c.merge doc next depth).1 = .error failure) :
    failure.interrupts = true := mergeMapping_interrupts _ c.root doc h

/-- A document comes to its end in a reachable configuration where every mapping that it is merged
into stands at one place, whatever stands at several places in the document. -/
theorem merge_of_unshared (h : c.Reachable) (hread : readDocument fs path c.next = .ok (doc, next))
    (hunshared : ∀ l, MergedInto l c.root doc → c.root.Unshared l) (depth : Nat) :
    (c.merge doc next depth).1 = .ok () := by
  obtain ⟨es, hroot⟩ := h.labelled.1
  have hdetached : Detached (.map 0 es) doc := hroot ▸ h.detached hread hunshared
  obtain ⟨root, hmerged, -⟩ := mergeInto_at? hdetached depth
  rw [merge, hroot, hmerged]

/-- A merge of a file that fails, for whatever reason, leaves a reachable configuration as it was,
unless it ends among the entries of a document that is merged into a mapping which stands at two
places or inside itself: one that is not `Unshared`. At which depth a merge without end is given up
does not matter. -/
theorem failed_mergeFile_changes_nothing (h : c.Reachable)
    (hfail : (c.mergeFile fs path depth).1 = .error failure) :
    (c.mergeFile fs path depth).2 = c ∨
      failure.interrupts = true ∧ ∃ doc next, readDocument fs path c.next = .ok (doc, next) ∧
        ∃ l, MergedInto l c.root doc ∧ ¬ c.root.Unshared l := by
  rcases mergeFile_cases fs path c depth with
    ⟨_, -, hmerge⟩ | ⟨doc, next, hread, hmerge⟩ | hmerge | hmerge
  · exact Or.inl (by rw [hmerge])
  · rw [hmerge] at hfail
    refine Or.inr ⟨merge_interrupts hfail, doc, next, hread, ?_⟩
    -- a merge into mappings at one place does not fail
    by_contra hnone
    have hunshared : ∀ l, MergedInto l c.root doc → c.root.Unshared l :=
      fun l hl => by_contra fun hshared => hnone ⟨l, hl, hshared⟩
    rw [merge_of_unshared h hread hunshared] at hfail
    cases hfail
  · exact Or.inl (by rw [hmerge])
  · exact Or.inl (by rw [hmerge])

end Config.Configuration

namespace Config

open Value

/-! ## One mapping at two places -/

/-- The working directory with a document in which one mapping stands at two places, a document that
is merged into both of them, and a text that is no document. -/
def tangledFiles : FileSystem where
  root := .directory [
    ("base.yaml", .file "{m: &a {}, n: *a}\n".toUTF8),
    ("next.yaml", .file "{m: {p: &s {p: {k: 1}}}, n: *s}\n".toUTF8),
    ("open.yaml", .file "\x7bm: 1\n".toUTF8)]
  workingDirectory := []

/-- The configuration of the first document. -/
def tangled : Configuration :=
  (Configuration.mergeFile tangledFiles { names := ["base.yaml"] } {}).2

theorem tangled_reachable : tangled.Reachable := .mergeFile .empty tangledFiles _ _

/-- A text that is no document changes nothing, although a mapping stands at two places. -/
theorem tangled_kept_by_open_document :
    failsWith (!Failure.interrupts ·)
        (tangled.mergeFile tangledFiles { names := ["open.yaml"] }).1 = true ∧
      (tangled.mergeFile tangledFiles { names := ["open.yaml"] }).2 = tangled := by
  have hfails : failsWith (!Failure.interrupts ·)
      (tangled.mergeFile tangledFiles { names := ["open.yaml"] }).1 = true := by decide +kernel
  obtain ⟨failure, hfail, hother⟩ := failsWith_iff.1 hfails
  refine ⟨hfails, ?_⟩
  rcases Configuration.failed_mergeFile_changes_nothing tangled_reachable hfail with h | ⟨h, -⟩
  · exact h
  · rw [h] at hother
    cases hother

/-- The second document puts a mapping of its own into the one at two places, and then merges this
mapping into the one it stands in: so it grows while it is read, the merge ends early, and what has
been put stays. -/
theorem interrupted_merge_leaves_changes :
    failsWith Failure.interrupts
        (tangled.mergeFile tangledFiles { names := ["next.yaml"] }).1 = true ∧
      (tangled.mergeFile tangledFiles { names := ["next.yaml"] }).2.root.unlabelled ≠
        tangled.root.unlabelled := by
  -- there is nothing under the second key before, and something after
  have hbefore : (tangled.root.unlabelled.at? [.text "m", .text "p"]).isSome = false := by
    decide +kernel
  have hafter : ((tangled.mergeFile tangledFiles { names := ["next.yaml"] }).2.root.unlabelled.at?
      [.text "m", .text "p"]).isSome = true := by decide +kernel
  refine ⟨by decide +kernel, fun h => ?_⟩
  rw [h, hbefore] at hafter
  cases hafter

/-- The working directory with a document in which a mapping stands inside itself, and another one
that is merged into it. -/
def loopedFiles : FileSystem where
  root := .directory [
    ("base.yaml", .file "{m: &a {x: *a}}\n".toUTF8),
    ("next.yaml", .file "{m: &b {z: 1, x: *b}}\n".toUTF8)]
  workingDirectory := []

/-- The two mappings are merged under the key that leads back to them, and so on without end. What
has been set before that stays, at whichever depth the merge is given up. -/
example :
    let c : Configuration := (Configuration.mergeFile loopedFiles { names := ["base.yaml"] } {}).2
    failsWith Failure.interrupts (c.mergeFile loopedFiles { names := ["next.yaml"] } 2).1 = true ∧
      ((c.mergeFile loopedFiles { names := ["next.yaml"] } 2).2.root.at?
        [.text "m", .text "z"]).isSome = true := by decide +kernel

end Config

end FactoryRegistry
