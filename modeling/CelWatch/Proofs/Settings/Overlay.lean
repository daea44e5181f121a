import CelWatch.Proofs.Settings.Declared

/-!
The environment of the settings as what is laid over the standard names. The
names in the settings are looked up one by one, so neither the order of the
entries nor that of the extensions can be seen in what a name means: an entry
declares its own name and no other, and functions are only ever added. Of the
extension names the one for all of them is the only one that also declares a
variable, the type of optional values.
-/

namespace CelWatch

section Lookup

variable {α : Type} {entries order : List (String × α)} {name first : String} {value : α}

theorem lookup_cons_of_ne (h : name ≠ first) (value : α) (rest : List (String × α)) :
    ((first, value) :: rest).lookup name = rest.lookup name := by
  have htest : (name == first) = false := beq_eq_false_iff_ne.mpr h
  rw [List.lookup_cons, htest]

theorem lookup_eq_none_of_not_mem (h : name ∉ entries.map Prod.fst) :
    entries.lookup name = none := by
  rw [List.lookup_eq_none_iff]
  intro entry member
  have hother : name ≠ entry.1 := fun hsame => h (List.mem_map.mpr ⟨entry, member, hsame.symm⟩)
  simpa using hother

/-- With names that are given once, a look-up finds the one entry of the name. -/
theorem lookup_eq_some_iff_mem (h : (entries.map Prod.fst).Nodup) :
    entries.lookup name = some value ↔ (name, value) ∈ entries := by
  induction entries with
  | nil => simp
  | cons entry rest ih =>
      obtain ⟨first, given⟩ := entry
      obtain ⟨hfirst, hrest⟩ := List.nodup_cons.mp h
      by_cases hname : name = first
      · subst hname
        have hother : (name, value) ∉ rest := fun member =>
          hfirst (List.mem_map.mpr ⟨_, member, rfl⟩)
        simp [hother, eq_comm]
      · rw [lookup_cons_of_ne hname, ih hrest]
        simp [hname]

theorem lookup_perm (h : (entries.map Prod.fst).Nodup) (horder : order.Perm entries)
    (name : String) : order.lookup name = entries.lookup name := by
  have hnames : (order.map Prod.fst).Nodup := (horder.map Prod.fst).nodup_iff.mpr h
  apply Option.ext
  intro value
  rw [lookup_eq_some_iff_mem hnames, lookup_eq_some_iff_mem h, horder.mem_iff]

theorem lookup_filter_ne (entries : List (String × α)) (name other : String) :
    (entries.filter fun entry => entry.1 != name).lookup other =
      if other = name then none else entries.lookup other := by
  induction entries with
  | nil => simp
  | cons entry rest ih =>
      obtain ⟨first, value⟩ := entry
      by_cases hfirst : first = name
      · subst hfirst
        have hdropped : ((first, value) :: rest).filter (fun entry => entry.1 != first) =
            rest.filter fun entry => entry.1 != first := by simp
        rw [hdropped, ih]
        by_cases hother : other = first
        · rw [if_pos hother, if_pos hother]
        · rw [if_neg hother, if_neg hother, lookup_cons_of_ne hother]
      · have hkept : ((first, value) :: rest).filter (fun entry => entry.1 != name) =
            (first, value) :: rest.filter fun entry => entry.1 != name := by simp [hfirst]
        rw [hkept]
        by_cases hother : other = first
        · subst hother
          rw [if_neg hfirst, List.lookup_cons_self, List.lookup_cons_self]
        · rw [lookup_cons_of_ne hother, lookup_cons_of_ne hother, ih]

end Lookup

namespace Environment

def functionNames (environment : Environment) : List String :=
  environment.functions.map Function.name

/-- A declaration is seen at its own name and nowhere else. -/
theorem variableType?_declare (environment : Environment) (declared name : String) (ty : Ty) :
    (environment.declare declared ty).variableType? name =
      if name = declared then some ty else environment.variableType? name := by
  rw [variableType?, declare]
  by_cases hname : name = declared
  · rw [if_pos hname, hname, List.lookup_cons_self]
  · rw [if_neg hname, lookup_cons_of_ne hname, lookup_filter_ne, if_neg hname]
    rfl

/-- Where no name is declared twice, each has the type it is declared with. -/
theorem variableType?_declareAll {entries : List (String × Ty)}
    (h : (entries.map Prod.fst).Nodup) (environment : Environment) (name : String) :
    (environment.declareAll entries).variableType? name =
      (entries.lookup name).or (environment.variableType? name) := by
  induction entries generalizing environment with
  | nil => rfl
  | cons entry rest ih =>
      obtain ⟨first, ty⟩ := entry
      obtain ⟨hfirst, hrest⟩ := List.nodup_cons.mp h
      have hstep : environment.declareAll ((first, ty) :: rest) =
          (environment.declare first ty).declareAll rest := rfl
      rw [hstep, ih hrest, variableType?_declare]
      by_cases hname : name = first
      · rw [hname, lookup_eq_none_of_not_mem hfirst, if_pos rfl, List.lookup_cons_self]
        rfl
      · rw [if_neg hname, lookup_cons_of_ne hname]

theorem functions_declareAll (entries : List (String × Ty)) (environment : Environment) :
    (environment.declareAll entries).functions = environment.functions := by
  induction entries generalizing environment with
  | nil => rfl
  | cons entry rest ih => exact ih (environment.declare entry.1 entry.2)

end Environment

def Extension.functionNames (extension : Extension) : List String :=
  extension.functions.map Function.name

namespace Settings

section Entries

variable {entries : List (String × String)} {name : String}

/-- The type that the entry of a name declares. -/
def declaredType? (entries : List (String × String)) (name : String) : Option Ty :=
  (entries.lookup name).bind fun text => (TypeText.ofString text).toOption

/-- An entry that declares something declares its own name. -/
theorem map_fst_declared (entries : List (String × String)) :
    ((entries.filterMap declared?).map Prod.fst).Sublist (entries.map Prod.fst) := by
  induction entries with
  | nil => exact .slnil
  | cons entry rest ih =>
      rw [List.filterMap_cons, declared?]
      cases TypeText.ofString entry.2 with
      | error cause => exact ih.cons _
      | ok ty => exact ih.cons_cons _

theorem lookup_declared (h : (entries.map Prod.fst).Nodup) (name : String) :
    (entries.filterMap declared?).lookup name = declaredType? entries name := by
  have hdeclared := (map_fst_declared entries).nodup h
  apply Option.ext
  intro ty
  rw [lookup_eq_some_iff_mem hdeclared, declaredType?, List.mem_filterMap, Option.bind_eq_some_iff]
  constructor
  · rintro ⟨⟨given, text⟩, member, hentry⟩
    cases hread : TypeText.ofString text with
    | error cause => simp [declared?, hread] at hentry
    | ok read =>
        simp only [declared?, hread, Option.some.injEq, Prod.mk.injEq] at hentry
        obtain ⟨rfl, rfl⟩ := hentry
        exact ⟨text, (lookup_eq_some_iff_mem h).mpr member, by rw [hread]; rfl⟩
  · rintro ⟨text, hfound, htype⟩
    refine ⟨(name, text), (lookup_eq_some_iff_mem h).mp hfound, ?_⟩
    cases hread : TypeText.ofString text with
    | error cause => simp [hread, Except.toOption] at htype
    | ok read =>
        simp only [hread, Except.toOption, Option.some.injEq] at htype
        simp [declared?, hread, htype]

end Entries

section Extensions

/-- The extensions that a name in the settings stands for; `none` where it stands
for none. -/
def groups? (word : String) : Option (List Extension) :=
  match word with
  | "all" => some Extension.all
  | "strings" => some [.strings]
  | "string" => some [.strings]
  | "math" => some [.math]
  | "encoders" => some [.encoders]
  | "encoder" => some [.encoders]
  | "optionals" => some [.optionals]
  | "optional" => some [.optionals]
  | _ => none

/-- The type of optional values under its own name. -/
def optionalType : String × Ty := ("optional_type", .typeOf (.optional .dyn))

/-- The names in the settings that stand for no extension, as warnings. -/
def unknown (words : List String) : List Warning :=
  (words.filter fun word => (groups? word).isNone).map .unknownExtension

/-- The functions of the extensions that names in the settings stand for. -/
def extensionFunctions (words : List String) : List Function :=
  words.flatMap fun word => ((groups? word).getD []).flatMap Extension.functions

/-- What names in the settings make of an environment: the functions of their
extensions come to it, and the name of all extensions declares a variable
besides. -/
structure Extends (words : List String) (before after : Environment) : Prop where
  functions : after.functions = before.functions ++ extensionFunctions words
  variableTypes : ∀ name, after.variableType? name =
    if "all" ∈ words ∧ name = optionalType.1 then some optionalType.2
    else before.variableType? name

section Extends

variable {words more : List String} {before between after : Environment}

theorem Extends.nil (environment : Environment) : Extends [] environment environment :=
  ⟨(List.append_nil _).symm, fun _ => (if_neg fun hall => List.not_mem_nil hall.1).symm⟩

theorem Extends.append (h : Extends words before between) (hmore : Extends more between after) :
    Extends (words ++ more) before after := by
  constructor
  · rw [hmore.functions, h.functions, List.append_assoc, extensionFunctions, extensionFunctions,
      extensionFunctions, List.flatMap_append]
  · intro name
    rw [hmore.variableTypes, h.variableTypes]
    by_cases hname : name = optionalType.1
    · by_cases hall : "all" ∈ more
      · simp [hname, hall]
      · simp [hname, hall]
    · simp [hname]

theorem extendAll_extends (environment : Environment) :
    Extends ["all"] environment environment.extendAll := by
  constructor
  · simp [Environment.extendAll, Environment.declare, Environment.extend, extensionFunctions,
      groups?, Extension.all]
  · intro name
    rw [Environment.extendAll, Environment.variableType?_declare]
    simp only [List.mem_singleton, true_and]
    rfl

theorem extend_extends {word : String} {extension : Extension}
    (hgroups : groups? word = some [extension]) (hother : word ≠ "all")
    (environment : Environment) :
    Extends [word] environment (environment.extend extension) := by
  constructor
  · simp [Environment.extend, extensionFunctions, hgroups]
  · intro name
    rw [if_neg fun hall => hother (List.mem_singleton.mp hall.1).symm]
    rfl

theorem extends_of_unknown {word : String} (hgroups : groups? word = none)
    (environment : Environment) : Extends [word] environment environment := by
  have hother : word ≠ "all" := by
    rintro rfl
    cases hgroups
  constructor
  · simp [extensionFunctions, hgroups]
  · intro name
    rw [if_neg fun hall => hother (List.mem_singleton.mp hall.1).symm]

/-- A name stands for extensions, or it is refused with a warning. -/
theorem extension?_cases (word : String) :
    (∃ extend, extension? word = some extend ∧ unknown [word] = [] ∧
      ∀ environment, Extends [word] environment (extend environment)) ∨
    (extension? word = none ∧ groups? word = none) := by
  unfold extension?
  split
  case h_1 => exact .inl ⟨_, rfl, rfl, extendAll_extends⟩
  case h_9 => exact .inr ⟨rfl, by simp [groups?]⟩
  all_goals exact .inl ⟨_, rfl, rfl, extend_extends rfl (by decide)⟩

theorem addExtension_extends (built : Environment × List Warning) (word : String) :
    Extends [word] built.1 (addExtension built word).1 ∧
      (addExtension built word).2 = built.2 ++ unknown [word] := by
  rw [addExtension]
  rcases extension?_cases word with ⟨extend, hextend, hknown, hextends⟩ | ⟨hnone, hgroups⟩
  · rw [hextend, hknown, List.append_nil]
    exact ⟨hextends built.1, rfl⟩
  · have hunknown : unknown [word] = [.unknownExtension word] := by simp [unknown, hgroups]
    rw [hnone, hunknown]
    exact ⟨extends_of_unknown hgroups built.1, rfl⟩

theorem foldl_addExtension (words : List String) (built : Environment × List Warning) :
    Extends words built.1 (words.foldl addExtension built).1 ∧
      (words.foldl addExtension built).2 = built.2 ++ unknown words := by
  induction words generalizing built with
  | nil => exact ⟨.nil built.1, (List.append_nil _).symm⟩
  | cons word words ih =>
      obtain ⟨hfirst, hwarned⟩ := addExtension_extends built word
      obtain ⟨hrest, hwarnings⟩ := ih (addExtension built word)
      refine ⟨hfirst.append hrest, ?_⟩
      rw [List.foldl_cons, hwarnings, hwarned, List.append_assoc, unknown, unknown, unknown,
        ← List.map_append, ← List.filter_append, List.singleton_append]

end Extends

theorem mem_extensionNames {words : List String} {name : String} :
    name ∈ (extensionFunctions words).map Function.name ↔
      ∃ word ∈ words, ∃ groups, groups? word = some groups ∧
        ∃ extension ∈ groups, name ∈ extension.functionNames := by
  simp only [extensionFunctions, List.map_flatMap, List.mem_flatMap]
  constructor
  · rintro ⟨word, hword, extension, hextension, hname⟩
    cases hgroups : groups? word with
    | none => simp [hgroups] at hextension
    | some groups =>
        rw [hgroups] at hextension
        exact ⟨word, hword, groups, hgroups, extension, hextension, hname⟩
  · rintro ⟨word, hword, groups, hgroups, extension, hextension, hname⟩
    exact ⟨word, hword, extension, by rw [hgroups]; exact hextension, hname⟩

end Extensions

/-- The environment of the settings is the standard one with the extensions and
the variables laid over it, in whatever order the variables come. A name has the
type that its own entry declares; without one it has what the name of all
extensions declares, if that is among the extensions, or else what it has by the
standard. Functions are the standard ones and those of every extension that some
name stands for. There is a warning for each entry with a text that is no type
and for each name that stands for no extension, and there are no others. -/
theorem environment_overlays_standard (settings : Settings) {given : EnvironmentSettings}
    (hgiven : settings.environment = some given)
    (hnames : ((given.variableTypes.getD []).map Prod.fst).Nodup) :
    let words := given.extensions.getD []
    let entries := given.variableTypes.getD []
    settings.environmentWithWarnings =
        (settings.withVariables given entries).environmentWithWarnings ∧
      ∀ order : List (String × String), order.Perm entries →
        let built := (settings.withVariables given order).environmentWithWarnings
        (∀ name, built.1.variableType? name =
          (declaredType? entries name).or
            (if "all" ∈ words ∧ name = optionalType.1 then some optionalType.2
            else Environment.standard.variableType? name)) ∧
        (∀ name, name ∈ built.1.functionNames ↔
          name ∈ Environment.standard.functionNames ∨
            ∃ word ∈ words, ∃ groups, groups? word = some groups ∧
              ∃ extension ∈ groups, name ∈ extension.functionNames) ∧
        built.1.container = given.container.getD "" ∧
        built.2.Perm (unknown words ++ entries.filterMap refused?) := by
  intro words entries
  have hsame : settings.environmentWithWarnings =
      (settings.withVariables given entries).environmentWithWarnings := by
    rw [environmentWithWarnings, hgiven]
    rfl
  refine ⟨hsame, ?_⟩
  intro order horder built
  obtain ⟨hextends, hwarned⟩ := foldl_addExtension words (.standard, [])
  have hbuilt : built = _ := environmentWithWarnings_withVariables settings given order
  have horderNames : (order.map Prod.fst).Nodup := (horder.map Prod.fst).nodup_iff.mpr hnames
  have hdeclared := (map_fst_declared order).nodup horderNames
  rw [hbuilt]
  refine ⟨?_, ?_, rfl, ?_⟩
  · intro name
    have hlookup : declaredType? order name = declaredType? entries name := by
      rw [declaredType?, declaredType?, lookup_perm hnames horder]
    calc
      _ = (Environment.declareAll _ (order.filterMap declared?)).variableType? name := rfl
      _ = _ := by
        rw [Environment.variableType?_declareAll hdeclared, lookup_declared horderNames, hlookup,
          hextends.variableTypes]
  · intro name
    rw [← mem_extensionNames, Environment.functionNames, Environment.functionNames,
      ← List.mem_append, ← List.map_append, ← hextends.functions]
    have hkept := Environment.functions_declareAll (order.filterMap declared?)
      (words.foldl addExtension (.standard, [])).1
    exact iff_of_eq (congrArg (fun functions => name ∈ List.map Function.name functions) hkept)
  · rw [hwarned, List.nil_append]
    exact (horder.filterMap refused?).append_left _

/-- A standard name with a text that is no type, a name for all extensions among
others, and an entry for the variable that it declares. -/
def crowded : EnvironmentSettings where
  container := none
  extensions := some ["string", "nope", "all", "strings"]
  variableTypes := some [("int", "list("), ("x", "list(int)"), ("optional_type", "bool")]

theorem environment_overlays_standard_crowded :
    let entries := [("int", "list("), ("x", "list(int)"), ("optional_type", "bool")]
    let built := (Settings.withVariables ⟨none, none, some crowded⟩ crowded
      entries.reverse).environmentWithWarnings
    (entries.map Prod.fst).Nodup ∧ entries.reverse.Perm entries ∧
      built.1.variableType? "int" = some (.typeOf .int) ∧
      built.1.variableType? "x" = some (.list .int) ∧
      built.1.variableType? "optional_type" = some .bool ∧
      "charAt" ∈ built.1.functionNames ∧
      built.2.Perm [.unknownExtension "nope", .badVariable "int" (.missingParen "list(")] := by
  intro entries built
  have hnames : (entries.map Prod.fst).Nodup := by decide
  have horder : entries.reverse.Perm entries := List.reverse_perm entries
  obtain ⟨hvariables, hfunctions, _, hwarnings⟩ :=
    (environment_overlays_standard ⟨none, none, some crowded⟩ rfl hnames).2 _ horder
  have hopen : TypeText.ofString "list(" = .error (.missingParen "list(") := by cbv
  have hlist : TypeText.ofString "list(int)" = .ok (.list .int) := by cbv
  have hbool : TypeText.ofString "bool" = .ok .bool := by cbv
  refine ⟨hnames, horder, (hvariables _).trans ?_, (hvariables _).trans ?_,
    (hvariables _).trans ?_, (hfunctions _).mpr ?_, ?_⟩
  · change ((TypeText.ofString "list(").toOption).or _ = _
    rw [hopen]
    decide
  · change ((TypeText.ofString "list(int)").toOption).or _ = _
    rw [hlist]
    rfl
  · change ((TypeText.ofString "bool").toOption).or _ = _
    rw [hbool]
    rfl
  · exact .inr ⟨"string", by decide, [.strings], rfl, .strings, by decide, by decide⟩
  · have htold : entries.filterMap refused? = [.badVariable "int" (.missingParen "list(")] := by
      simp [entries, refused?, hopen, hlist, hbool]
    exact htold ▸ hwarnings

/-- A variable that neither the standard library nor an entry declares. -/
theorem all_declares_optional_type :
    let settings : Settings := ⟨none, none, some ⟨none, some ["all"], none⟩⟩
    settings.environmentWithWarnings.1.variableType? "optional_type" =
        some (.typeOf (.optional .dyn)) ∧
      Environment.standard.variableType? "optional_type" = none := by
  decide

end Settings

end CelWatch
