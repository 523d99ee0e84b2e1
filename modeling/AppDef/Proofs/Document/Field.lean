import AppDef.Document.Field
import AppDef.Proofs.Dict
import AppDef.Proofs.Json.Decoding

namespace AppDef

theorem FieldKind.eq_of_ofName_other {name other : String}
    (h : FieldKind.ofName name = .other other) : other = name := by
  unfold ofName at h
  split at h
  all_goals cases h
  rfl

/-- The name of a kind that was read is a name of that kind. -/
theorem FieldKind.ofName_name_ofName (name : String) :
    ofName (ofName name).name = ofName name := by
  cases h : ofName name with
  | other s =>
    obtain rfl := eq_of_ofName_other h
    exact h
  | _ => rfl

theorem FieldOption.ofJson?_toJson (o : FieldOption) : ofJson? o.toJson = some o := by
  cases o with
  | plain v => rfl
  | labeled l v => simp [ofJson?, toJson, scalarText?, Members.lookup_cons]

theorem FieldOption.filterMap_toJson (options : List FieldOption) :
    (options.map toJson).filterMap ofJson? = options := by
  rw [List.filterMap_map]
  exact (List.filterMap_congr fun o _ => ofJson?_toJson o).trans List.filterMap_some

theorem FieldOption.toJson_wellFormed (o : FieldOption) : o.toJson.WellFormed := by
  cases o with
  | plain v => exact .text v
  | labeled l v =>
    exact Json.wellFormed_of_written ["label", "value"] (by decide)
      (.cons (.text l) (.cons (.text v) .nil))

namespace Constraints

structure Finite (c : Constraints) : Prop where
  min : ∀ x, c.min = some x → x.isFinite = true
  max : ∀ x, c.max = some x → x.isFinite = true

theorem bound?_isFinite {v : Json} {x : Float} (h : bound? v = some x) : x.isFinite = true := by
  cases v with
  | number n =>
    simp only [bound?] at h
    exact (Option.filter_eq_some_iff.mp h).2
  | text s =>
    simp only [bound?] at h
    exact (Option.filter_eq_some_iff.mp h).2
  | _ => cases h

theorem bound?_ofFloat {x : Float} (h : x.isFinite = true) : bound? (.ofFloat x) = some x := by
  simp [bound?, Json.ofFloat, Json.Number.toFloat, Option.filter, h]

theorem ofMembers_finite (members : List (String × Json)) : (ofMembers members).Finite := by
  refine ⟨?_, ?_⟩
  · intro x h
    obtain ⟨v, _, h⟩ := Option.bind_eq_some_iff.mp h
    exact bound?_isFinite h
  · intro x h
    obtain ⟨v, _, h⟩ := Option.bind_eq_some_iff.mp h
    exact bound?_isFinite h

theorem ofJson?_finite {v : Json} {c : Constraints} (h : ofJson? v = some c) : c.Finite := by
  cases v with
  | object members =>
    cases h
    exact ofMembers_finite members
  | array items =>
    simp only [ofJson?] at h
    split at h
    · cases h
    · cases h
      exact ofMembers_finite _
  | _ => cases h

theorem ofJson?_toJson {c : Constraints} (h : c.Finite) : ofJson? c.toJson = some c := by
  have hmin : (c.min.map Json.ofFloat).bind bound? = c.min :=
    option_bind_map fun x hx => bound?_ofFloat (h.min x hx)
  have hmax : (c.max.map Json.ofFloat).bind bound? = c.max :=
    option_bind_map fun x hx => bound?_ofFloat (h.max x hx)
  have htext (o : Option String) : (o.map Json.text).bind Json.asText? = o :=
    option_bind_map fun _ _ => rfl
  simp [ofJson?, toJson, ofMembers, Members.lookup_optional, List.lookup_append, hmin, hmax, htext]

theorem toJson_wellFormed (c : Constraints) : c.toJson.WellFormed :=
  Json.wellFormed_of_written ["min", "max", "pattern", "message"] (by decide) <|
    .optional (fun _ _ => .number _) <| .optional (fun _ _ => .number _) <|
    .optional (fun _ _ => .text _) <| .optional (fun _ _ => .text _) .nil

end Constraints

namespace Field

/-- What decoding makes of a field: its kind is the one that its kind's name stands for, and what
it keeps uninterpreted is kept under other names than those of its parts. -/
structure Canonical (f : Field) : Prop where
  kind : FieldKind.ofName f.kind.name = f.kind
  default : ∀ v, f.defaultValue = some v → given? v = some v ∧ v.WellFormed
  constraints : ∀ c, f.constraints = some c → c.Finite
  extra : ∀ e ∈ f.extra.entries, e.1 ∉ memberNames ∧ e.2.WellFormed

theorem given?_eq_some {v w : Json} (h : given? v = some w) : v = w ∧ given? w = some w := by
  cases v <;> cases h <;> exact ⟨rfl, rfl⟩

theorem distinct_unknown {members : List (String × Json)} (h : Members.Distinct members) :
    Members.Distinct (members.filter fun m => !memberNames.contains m.1) :=
  h.sublist (List.filter_sublist.map _)

theorem ofMembers_canonical {members : List (String × Json)}
    (h : (Json.object members).WellFormed) : (ofMembers members).Canonical where
  kind := by
    simp only [ofMembers]
    cases (members.lookup "type").bind Json.asText? with
    | none => rfl
    | some name => exact FieldKind.ofName_name_ofName name
  default := by
    intro v hv
    obtain ⟨w, hw, hgiven⟩ := Option.bind_eq_some_iff.mp hv
    obtain ⟨rfl, hgiven⟩ := given?_eq_some hgiven
    exact ⟨hgiven, h.member hw⟩
  constraints := by
    intro c hc
    obtain ⟨v, _, hv⟩ := Option.bind_eq_some_iff.mp hc
    exact Constraints.ofJson?_finite hv
  extra := by
    intro e he
    have hmem := Dict.mem_of_mem_ofList (distinct_unknown h.distinct) he
    obtain ⟨hmem, hname⟩ := List.mem_filter.mp hmem
    exact ⟨by simpa using hname, h.member (h.distinct.lookup hmem)⟩

theorem decode_eq_ok {v : Json} {f : Field} :
    decode v = .ok f ↔ ∃ members, v = .object members ∧ ofMembers members = f := by
  cases v <;> simp [decode, Json.mismatch]

theorem Canonical.lookup_extra {f : Field} (h : f.Canonical) {key : String}
    (hkey : key ∈ memberNames) : f.extra.entries.lookup key = none := by
  cases hlookup : f.extra.entries.lookup key with
  | none => rfl
  | some v => exact absurd hkey (h.extra _ (Members.mem_of_lookup hlookup)).1

theorem Canonical.filter_extra {f : Field} (h : f.Canonical) :
    f.extra.entries.filter (fun m => !memberNames.contains m.1) = f.extra.entries := by
  refine List.filter_eq_self.mpr ?_
  intro e he
  simpa using (h.extra e he).1

theorem Canonical.nodup_names {f : Field} (h : f.Canonical) :
    (memberNames ++ f.extra.keys).Nodup := by
  refine List.nodup_append.mpr ⟨by decide, f.extra.distinct, ?_⟩
  rintro name hname _ hkey rfl
  obtain ⟨e, he, rfl⟩ := List.mem_map.mp hkey
  exact (h.extra e he).1 hname

theorem Canonical.toJson_wellFormed {f : Field} (h : f.Canonical) : f.toJson.WellFormed := by
  have hextra : Json.Written f.extra.keys (f.extra.entries ++ []) := by
    rw [List.append_nil]
    exact ⟨.refl _, fun e he => (h.extra e he).2⟩
  have hoptions : (Json.array (f.options.map FieldOption.toJson)).WellFormed :=
    Json.wellFormed_map fun o _ => o.toJson_wellFormed
  have hrest : Json.Written ("defaultValue" :: "validation" :: f.extra.keys)
      ((f.defaultValue.toList.map fun v => ("defaultValue", v)) ++
        ((f.constraints.toList.map fun c => ("validation", c.toJson)) ++
          (f.extra.entries ++ []))) :=
    .optional (fun v hv => (h.default v hv).2) (.optional (fun c _ => c.toJson_wellFormed) hextra)
  refine Json.wellFormed_of_written _ h.nodup_names ?_
  refine .cons (.text _) (.cons (.text _) (.cons (.text _) (.optional (fun _ _ => .text _) ?_)))
  refine .cons (.bool _) ?_
  cases ho : f.options with
  | nil => exact .skip hrest
  | cons o options => exact .cons (ho ▸ hoptions) hrest

/-- The options are left out when there are none. -/
theorem lookup_options (key : String) (options : List FieldOption) :
    (if options.isEmpty then []
      else [("options", Json.array (options.map FieldOption.toJson))]).lookup key =
      if key = "options" ∧ options ≠ [] then some (.array (options.map FieldOption.toJson))
      else none := by
  cases options <;> simp [Members.lookup_cons]

theorem Canonical.decode_toJson {f : Field} (h : f.Canonical) : decode f.toJson = .ok f := by
  obtain ⟨name, label, kind, placeholder, required, options, default, constraints, extra⟩ := f
  have habsent {key : String} (hkey : key ∈ memberNames) : extra.entries.lookup key = none :=
    h.lookup_extra hkey
  have hunknown : extra.entries.filter (fun m => !memberNames.contains m.1) = extra.entries :=
    h.filter_extra
  have hkept : Dict.ofList (extra.entries.filter fun m => !memberNames.contains m.1) = extra := by
    rw [hunknown, Dict.ofList_entries]
  have htext : (placeholder.map Json.text).bind Json.asText? = placeholder :=
    option_bind_map fun _ _ => rfl
  have hgiven : default.bind given? = default := by
    cases default with
    | none => rfl
    | some v => exact (h.default v rfl).1
  have hbounds : (constraints.map Constraints.toJson).bind Constraints.ofJson? = constraints :=
    option_bind_map fun c hc => Constraints.ofJson?_toJson (h.constraints c hc)
  have hkind : FieldKind.ofName kind.name = kind := h.kind
  simp only [decode, toJson, ofMembers, Except.ok.injEq, mk.injEq, List.flatten_cons,
    List.flatten_nil, List.cons_append, List.nil_append, List.append_nil, Members.lookup_cons,
    List.lookup_append, Members.lookup_optional, Members.lookup_given, lookup_options]
  refine ⟨rfl, rfl, hkind, ?_, ?_, ?_, ?_, ?_, ?_⟩
  · simpa [habsent (by decide : "placeholder" ∈ memberNames)] using htext
  · simp [flagOf]
  · cases options with
    | nil => simp [habsent (by decide : "options" ∈ memberNames)]
    | cons o options => simpa [optionsOf] using FieldOption.filterMap_toJson (o :: options)
  · simpa [habsent (by decide : "defaultValue" ∈ memberNames)] using hgiven
  · simpa [habsent (by decide : "validation" ∈ memberNames)] using hbounds
  · cases options <;>
      simpa [List.filter_cons, List.filter_map, Function.comp_def, memberNames] using hkept

/-- A member that is not a part of fields is found in the encoding as it was written. -/
theorem member?_toJson_ofMembers {members : List (String × Json)}
    (h : (Json.object members).WellFormed) {key : String} (hkey : key ∉ memberNames) {v : Json}
    (hv : members.lookup key = some v) : (ofMembers members).toJson.member? key = some v := by
  have hunknown : (key, v) ∈ members.filter fun m => !memberNames.contains m.1 := by
    refine List.mem_filter.mpr ⟨Members.mem_of_lookup hv, ?_⟩
    simpa using hkey
  have hextra : (key, v) ∈ (ofMembers members).extra.entries := by
    refine Members.mem_of_lookup ?_
    exact (Dict.get?_ofList (distinct_unknown h.distinct) key).trans
      ((distinct_unknown h.distinct).lookup hunknown)
  refine (ofMembers_canonical h).toJson_wellFormed.distinct.lookup ?_
  simp only [List.flatten_cons, List.mem_append]
  simp [hextra]

end Field

end AppDef
