/-
Which declarations the inherited file takes over.

The sections are made file by file, each leaving out what an earlier one has declared.
Put together they are the first occurrences among all declarations that are inherited:

* `firsts` — the declarations of a list without those whose name came before;
* `flatMap_sections` — the declarations of the sections, in order.
-/
import ModuleWiring.InheritedFile
import ModuleWiring.Proofs.Reading.Legible

namespace ModuleWiring

/-- The declarations of a list, without those whose name has come before. -/
def firsts : List Declaration → List Declaration
  | [] => []
  | d :: ds => d :: (firsts ds).filter fun e => e.name != d.name

theorem mem_map_name_firsts {ds : List Declaration} {name : Text} :
    name ∈ (firsts ds).map Declaration.name ↔ name ∈ ds.map Declaration.name := by
  induction ds with
  | nil => rfl
  | cons d ds ih =>
    simp only [firsts, List.map_cons, List.mem_cons]
    by_cases hd : name = d.name
    · simp [hd]
    · rw [← ih]
      simp only [hd, false_or, List.mem_map, List.mem_filter, bne_iff_ne, ne_eq]
      constructor
      · rintro ⟨e, ⟨he, -⟩, hname⟩
        exact ⟨e, he, hname⟩
      · rintro ⟨e, he, rfl⟩
        exact ⟨e, ⟨he, hd⟩, rfl⟩

theorem nodup_map_name_firsts (ds : List Declaration) :
    ((firsts ds).map Declaration.name).Nodup := by
  induction ds with
  | nil => exact List.nodup_nil
  | cons d ds ih =>
    rw [firsts, List.map_cons, List.nodup_cons]
    constructor
    · intro hm
      obtain ⟨e, he, hname⟩ := List.mem_map.mp hm
      have hne := (List.mem_filter.mp he).2
      rw [hname, bne_self_eq_false] at hne
      exact Bool.false_ne_true hne
    · exact ih.sublist (List.filter_sublist.map _)

theorem firsts_of_nodup {ds : List Declaration} (h : (ds.map Declaration.name).Nodup) :
    firsts ds = ds := by
  induction ds with
  | nil => rfl
  | cons d ds ih =>
    rw [List.map_cons, List.nodup_cons] at h
    rw [firsts, ih h.2, List.filter_eq_self.mpr]
    intro e he
    rw [bne_iff_ne]
    intro hname
    exact h.1 (hname ▸ List.mem_map_of_mem he)

theorem firsts_append (xs ys : List Declaration) :
    firsts (xs ++ ys) =
      firsts xs ++ (firsts ys).filter fun e => !(xs.map Declaration.name).contains e.name := by
  induction xs with
  | nil =>
    symm
    exact List.filter_eq_self.mpr fun _ _ => rfl
  | cons x xs ih =>
    rw [List.cons_append, firsts, ih, firsts, List.filter_append, List.filter_filter,
      List.cons_append]
    congr 2
    refine List.filter_congr fun e _ => ?_
    rw [List.map_cons, List.contains_cons, Bool.not_or]
    rfl

theorem firsts_filter (p : Text → Bool) (ds : List Declaration) :
    firsts (ds.filter fun d => p d.name) = (firsts ds).filter fun d => p d.name := by
  induction ds with
  | nil => rfl
  | cons d ds ih =>
    -- all declarations of a name share the fate of the first
    by_cases hd : p d.name = true
    · have hpos : ∀ es, (d :: es).filter (fun d => p d.name) =
          d :: es.filter fun d => p d.name :=
        fun es => List.filter_cons_of_pos hd
      rw [hpos, firsts, ih, firsts, hpos, List.filter_filter, List.filter_filter]
      simp only [Bool.and_comm]
    · have hneg : ∀ es, (d :: es).filter (fun d => p d.name) = es.filter fun d => p d.name :=
        fun es => List.filter_cons_of_neg hd
      rw [hneg, ih, firsts, hneg, List.filter_filter]
      refine List.filter_congr fun e _ => ?_
      cases hp : p e.name with
      | false => rfl
      | true =>
        have hne : e.name ≠ d.name := fun h => hd (h ▸ hp)
        simp [hne]

namespace InheritedFile

/-- The declarations of a file whose variables are inherited. -/
def inheritedOf (main : Content) (site : CallSite) (file : VariableFile) : List Declaration :=
  file.content.declarations.values.filter fun d => isInherited main site d.name

/-- All inherited declarations that the main file does not make itself, in the order in
which they are found. -/
def wanted (main : Content) (files : ModuleFiles) : List Declaration :=
  main.callSites.values.flatMap fun site =>
    (files.of site.name).flatMap fun file =>
      file.content.declarations.values.filter fun d =>
        isInherited main site d.name && !main.declarations.contains d.name

/-- Leaving out what earlier files declare amounts to keeping first occurrences. -/
theorem flatMap_sectionsFrom {main : Content} {srcs : List (CallSite × VariableFile)}
    (h : ∀ src ∈ srcs, (src.2.content.declarations.values.map Declaration.name).Nodup)
    (declared : List Text) :
    (sectionsFrom main declared srcs).flatMap Section.declarations =
      (firsts (srcs.flatMap fun src => inheritedOf main src.1 src.2)).filter
        fun d => !declared.contains d.name := by
  induction srcs generalizing declared with
  | nil => rfl
  | cons src srcs ih =>
    obtain ⟨site, file⟩ := src
    have ih := ih fun s hs => h s (List.mem_cons_of_mem _ hs)
    have hnodup : ((inheritedOf main site file).map Declaration.name).Nodup :=
      (h _ List.mem_cons_self).sublist (List.filter_sublist.map _)
    have hundeclared : undeclared main declared site file =
        (inheritedOf main site file).filter fun d => !declared.contains d.name := by
      rw [undeclared, inheritedOf, List.filter_filter]
      simp only [Bool.and_comm]
    have hhead : (sectionsFrom main declared ((site, file) :: srcs)).flatMap Section.declarations =
        undeclared main declared site file ++
          (sectionsFrom main (declared ++ (undeclared main declared site file).map
            Declaration.name) srcs).flatMap Section.declarations := by
      rw [sectionsFrom]
      split
      · next hempty => rw [List.isEmpty_iff.mp hempty, List.nil_append]
      · rw [List.flatMap_cons]
    rw [hhead, ih, List.flatMap_cons, firsts_append, firsts_of_nodup hnodup, List.filter_append,
      List.filter_filter, hundeclared]
    congr 1
    refine List.filter_congr fun e _ => ?_
    -- a name that is not taken over from this file has been declared before
    by_cases hd : declared.contains e.name = true
    · simp [List.contains_iff_mem.mp hd]
    · have hmem : e.name ∉ declared := fun hm => hd (List.contains_iff_mem.mpr hm)
      rw [Bool.eq_iff_iff]
      simp only [Bool.not_eq_true', List.contains_eq_mem, decide_eq_false_iff_not,
        List.mem_append, List.mem_map, List.mem_filter, Bool.and_eq_true, hmem, false_or,
        not_false_eq_true, true_and]
      constructor
      · rintro hno ⟨d, hmd, hname⟩
        exact hno ⟨d, ⟨hmd, by rw [hname]; exact hmem⟩, hname⟩
      · rintro hno ⟨d, ⟨hmd, -⟩, hname⟩
        exact hno ⟨d, hmd, hname⟩

theorem mem_sources {main : Content} {files : ModuleFiles} {src : CallSite × VariableFile}
    (h : src ∈ sources main files) :
    src.1 ∈ main.callSites.values ∧ src.2 ∈ files.of src.1.name := by
  obtain ⟨site, hsite, hsrc⟩ := List.mem_flatMap.mp h
  obtain ⟨file, hfile, rfl⟩ := List.mem_map.mp hsrc
  exact ⟨hsite, hfile⟩

/-- The declarations of the sections are the first occurrences of what is wanted. -/
theorem flatMap_sections {main : Content} {files : ModuleFiles}
    (h : ∀ name, ∀ file ∈ files.of name, file.content.DeclaresLegibly) :
    (sections main files).flatMap Section.declarations = firsts (wanted main files) := by
  have hnodup : ∀ src ∈ sources main files,
      (src.2.content.declarations.values.map Declaration.name).Nodup := by
    intro src hsrc
    rw [(h _ _ (mem_sources hsrc).2).map_name]
    exact src.2.content.declarations.nodup_keys
  -- what the main file declares itself may be left out before or after the others
  have hwanted : wanted main files =
      ((sources main files).flatMap fun src => inheritedOf main src.1 src.2).filter
        fun d => !main.declarations.contains d.name := by
    rw [wanted, sources, List.flatMap_assoc, List.filter_flatMap]
    congr 1
    funext site
    rw [List.flatMap_map, List.filter_flatMap]
    congr 1
    funext file
    rw [inheritedOf, List.filter_filter]
    simp only [Bool.and_comm]
  rw [sections, flatMap_sectionsFrom hnodup, hwanted, firsts_filter fun name =>
    !main.declarations.contains name]
  refine List.filter_congr fun e _ => ?_
  rw [Bool.eq_iff_iff, Bool.not_eq_true', Bool.not_eq_true', ← Bool.not_eq_true,
    ← Bool.not_eq_true, List.contains_iff_mem, OrderedMap.contains_iff]

end InheritedFile

end ModuleWiring
