/-
Where the folders of modules are looked for.

A folder that is set by name is put behind the root of the project and then seen from the folder
of the main file.  A path that begins at the root of the disk stays what it is, so with an
absolute root this is the folder behind the root of the project; with a relative one the way to
the main file stands in front of it.

* `moduleRoot_steps` — the folder of the main file;
* `resolver_places` — the folder that is found for a module, and when the one that is set for it
  is found behind the root of the project;
* `relative_root_doubled` — a relative root that is gone through two times.
-/
import ModuleWiring.Proofs.OrderedMap
import ModuleWiring.Proofs.Path
import ModuleWiring.Settings.Basic

namespace ModuleWiring.Options

open ModuleWiring.Path

variable (o : Options)

/-- Module sources are seen from the main file without its last step; one that is the root of the
disk has none, and then from the root of the project. -/
theorem moduleRoot_steps :
    o.moduleRoot.steps =
      if o.mainPath.steps = [.root] then o.root.steps else o.mainPath.steps.dropLast := by
  rw [moduleRoot]
  rcases hparent : o.mainPath.parent? with _ | folder
  · rw [Option.getD_none]
    rcases parent?_eq_none_iff.mp hparent with hnil | hroot
    · have htext : o.root.text = [] := text_nil_of_join (steps_eq_nil_iff.mp hnil)
      rw [hnil, if_neg (by simp), steps_eq_nil_iff.mpr htext, List.dropLast_nil]
    · rw [if_pos hroot]
  · have hroot : o.mainPath.steps ≠ [.root] := fun hroot => by
      rw [parent?_eq_none_iff.mpr (.inr hroot)] at hparent
      exact absurd hparent (by simp)
    rw [Option.getD_some, steps_of_parent? hparent, if_neg hroot]

variable {o}

/-- A folder that is set by name is found where it stands behind the root just when seeing it
from the folder of the main file changes nothing. -/
theorem sameAs_moduleRoot_join_iff {folder : Path} :
    (o.moduleRoot.join (o.root.join folder)).sameAs (o.root.join folder) = true ↔
      o.root.isAbsolute = true ∨ folder.isAbsolute = true ∨ o.moduleRoot.steps = [] ∨
        o.moduleRoot.steps = [.here] ∧ (o.root.join folder).steps.head? = some .here := by
  rcases hrel : (o.root.join folder).isAbsolute with _ | _
  · rw [sameAs_join_iff hrel]
    rw [isAbsolute_join, Bool.or_eq_false_iff] at hrel
    simp [hrel]
  · rw [join_of_isAbsolute hrel]
    rw [isAbsolute_join, Bool.or_eq_true] at hrel
    simp [sameAs, ← or_assoc, hrel]

/-- Where a module is looked for: in the folder that is set for its name, which is the folder
behind the root of the project just when one of the two paths begins at the root of the disk or
the way to the main file makes no step; otherwise where a local source leads from the folder of
the main file, which is the path of that file without its last step. -/
theorem resolver_places (o : Options) (name source : Text) :
    (∀ folder, o.settings.sources.get? name = some folder →
      ∃ place, o.resolver.resolve? name source = some place ∧
        (place.sameAs (o.root.join folder) = true ↔
          o.root.isAbsolute = true ∨ folder.isAbsolute = true ∨ o.moduleRoot.steps = [] ∨
            o.moduleRoot.steps = [.here] ∧ (o.root.join folder).steps.head? = some .here)) ∧
    (o.settings.sources.get? name = none → o.resolver.resolve? name source =
      if isLocalSource source then some (o.moduleRoot.join ⟨source⟩) else none) ∧
    o.moduleRoot.steps =
      if o.mainPath.steps = [.root] then o.root.steps else o.mainPath.steps.dropLast := by
  have hget : o.resolver.folders.get? name =
      (o.settings.sources.get? name).map fun folder => o.root.join folder :=
    OrderedMap.get?_mapValues _ _ _
  refine ⟨fun folder hset => ?_, fun hunset => ?_, moduleRoot_steps o⟩
  · refine ⟨o.moduleRoot.join (o.root.join folder), ?_, sameAs_moduleRoot_join_iff⟩
    rw [Resolver.resolve?, hget, hset]
    rfl
  · rw [Resolver.resolve?, hget, hunset]
    rfl

/-- A project at an absolute root, its main file in a folder of its own. -/
def nestedMain : Options where
  root := ⟨"/infra".toList⟩
  settings := {
    mainFile := ⟨"env/main.tf".toList⟩
    sources := .ofList [("vpc".toList, ⟨".terraform/modules/vpc".toList⟩)] }

theorem resolver_places_nestedMain :
    nestedMain.settings.sources.get? "vpc".toList = some ⟨".terraform/modules/vpc".toList⟩ ∧
    (∃ place, nestedMain.resolver.resolve? "vpc".toList "example/vpc".toList = some place ∧
      place.sameAs ⟨"/infra/.terraform/modules/vpc".toList⟩ = true) ∧
    nestedMain.settings.sources.get? "api".toList = none ∧
    nestedMain.resolver.resolve? "api".toList "./app".toList =
      some ⟨"/infra/env/./app".toList⟩ := by
  have hset : nestedMain.settings.sources.get? "vpc".toList =
      some ⟨".terraform/modules/vpc".toList⟩ := by decide
  have hunset : nestedMain.settings.sources.get? "api".toList = none := by decide
  obtain ⟨place, hplace, hsame⟩ :=
    (resolver_places nestedMain "vpc".toList "example/vpc".toList).1 _ hset
  have hroot : nestedMain.root.isAbsolute = true := by decide
  exact ⟨hset, ⟨place, hplace, hsame.mpr (.inl hroot)⟩, hunset,
    (resolver_places nestedMain "api".toList "./app".toList).2.1 hunset⟩

/-- Below a relative root a folder that is set by name is looked for behind that root two
times. -/
theorem relative_root_doubled :
    ∃ (o : Options) (name source : Text) (folder place : Path),
      o.settings.sources.get? name = some folder ∧
      o.resolver.resolve? name source = some place ∧
      place = ⟨"p/p/mods".toList⟩ ∧ o.root.join folder = ⟨"p/mods".toList⟩ ∧
      place.sameAs (o.root.join folder) = false := by
  refine ⟨{ root := ⟨"p".toList⟩
            settings := { sources := .ofList [("m".toList, ⟨"mods".toList⟩)] } },
    "m".toList, "x".toList, ⟨"mods".toList⟩, ⟨"p/p/mods".toList⟩, ?_⟩
  decide

end ModuleWiring.Options
