import Mathlib.Data.List.Induction
import AppDef.Proofs.Dict
import AppDef.Proofs.Document.RoundTrip
import AppDef.Proofs.Engine.Endpoint
import AppDef.Proofs.Engine.Ledger

namespace AppDef

/-- The slug of a document is the one that its raw form is filed under. -/
theorem Document.slug_of_ofJson {raw : Json} (hraw : raw.WellFormed) {d : Document}
    (h : ofJson raw = .ok d) : d.slug = Store.slugOf raw := by
  obtain ⟨hskeleton, root, rfl, hok⟩ := ofJson_eq_ok.mp h
  obtain ⟨identity, hmeta, hfilled⟩ := hskeleton.identified
  obtain ⟨slug, hslug, _⟩ := hfilled "slug" (by decide)
  have hfiled : Store.slugOf (.object root) = slug := by
    rw [Store.slugOf, hmeta, Option.bind_some, Json.member?, hslug]
    rfl
  have hidentity := reads_identity.decodeMembersInto hraw.distinct hok
  rw [show root.lookup "meta" = _ from hmeta, Option.elim_some] at hidentity
  have hread := Meta.reads_slug.decodeMembersInto (hraw.member hmeta).distinct
    (Meta.members_of_decode hidentity)
  simp only [hslug, Option.elim_some, Json.decodeText_text, Except.ok.injEq] at hread
  rw [hfiled, hread, Document.slug]

namespace Store

variable {s : Store} {history : List (String × Json)} {slug status : String} {raw : Json}

theorem get?_insert (s : Store) (status' : String) (raw : Json) (slug status : String) :
    (s.insert status' raw).get? slug status =
      if slug = slugOf raw ∧ status = status' then some raw else s.get? slug status := by
  by_cases hslug : slug = slugOf raw
  · by_cases hstatus : status = status' <;>
      simp [get?, statuses, insert, Dict.get?_insert, hslug, hstatus]
  · simp [get?, statuses, insert, Dict.get?_insert, hslug]

/-- The last one among raw documents with their statuses that has the slug and the status. -/
def latest? (history : List (String × Json)) (slug status : String) : Option Json :=
  (history.findRev? fun p => slugOf p.2 == slug && p.1 == status).map (·.2)

theorem latest?_concat (history : List (String × Json)) (p : String × Json) :
    latest? (history ++ [p]) slug status =
      if slug = slugOf p.2 ∧ status = p.1 then some p.2 else latest? history slug status := by
  simp only [latest?, List.findRev?_eq_find?_reverse, List.reverse_append, List.reverse_singleton,
    List.singleton_append, List.find?_cons]
  by_cases h : slug = slugOf p.2 ∧ status = p.1
  · simp [h]
  · have hne : (slugOf p.2 == slug && p.1 == status) = false := by
      simpa [eq_comm (a := slugOf p.2), eq_comm (a := p.1)] using h
    simp [h, hne]

/-- A store answers with what was inserted last. -/
theorem get?_foldl_insert (history : List (String × Json)) (slug status : String) :
    (history.foldl (fun s p => s.insert p.1 p.2) empty).get? slug status =
      latest? history slug status := by
  induction history using List.reverseRecOn with
  | nil => rfl
  | append_singleton history p ih =>
    rw [List.foldl_append, List.foldl_cons, List.foldl_nil, get?_insert, latest?_concat, ih]

/-- Nothing with the same slug and status was inserted behind the last one. -/
theorem latest?_of_append {before after : List (String × Json)}
    (h : ∀ p ∈ after, slugOf p.2 = slugOf raw → p.1 ≠ status) :
    latest? (before ++ (status, raw) :: after) (slugOf raw) status = some raw := by
  have hafter :
      after.reverse.find? (fun p => slugOf p.2 == slugOf raw && p.1 == status) = none := by
    simpa using h
  simp [latest?, List.findRev?_eq_find?_reverse, List.find?_append, hafter]

/-- Every raw document is filed under its own slug. -/
structure Filed (s : Store) : Prop where
  slug : ∀ slug status raw, s.get? slug status = some raw → slugOf raw = slug
  wellFormed : ∀ slug status raw, s.get? slug status = some raw → raw.WellFormed

theorem filed_empty : empty.Filed where
  slug := fun _ _ _ h => by cases h
  wellFormed := fun _ _ _ h => by cases h

theorem Filed.insert (h : s.Filed) (hraw : raw.WellFormed) (status : String) :
    (s.insert status raw).Filed := by
  constructor
  · intro slug status' raw' hget
    rw [get?_insert] at hget
    split at hget
    · rename_i he
      cases hget
      exact he.1.symm
    · exact h.slug slug status' raw' hget
  · intro slug status' raw' hget
    rw [get?_insert] at hget
    split at hget
    · cases hget
      exact hraw
    · exact h.wellFormed slug status' raw' hget

theorem filed_foldl_insert (h : s.Filed) (hraw : ∀ p ∈ history, p.2.WellFormed) :
    (history.foldl (fun s p => s.insert p.1 p.2) s).Filed := by
  induction history generalizing s with
  | nil => exact h
  | cons p history ih =>
    obtain ⟨hp, hhistory⟩ := List.forall_mem_cons.mp hraw
    exact ih (h.insert hp p.1) hhistory

theorem get?_of_mem {e : String × Dict Json} (he : e ∈ s.documents.entries) (status : String) :
    s.get? e.1 status = e.2.get? status := by
  have hlookup : s.documents.get? e.1 = some e.2 := Dict.mem_entries_iff.mp he
  rw [get?, statuses, hlookup, Option.getD_some]

theorem mem_active_iff : raw ∈ s.active ↔ ∃ slug, s.get? slug activeStatus = some raw := by
  simp only [active, List.mem_filterMap]
  constructor
  · rintro ⟨e, he, hget⟩
    exact ⟨e.1, by rw [get?_of_mem he]; exact hget⟩
  · rintro ⟨slug, hget⟩
    cases hdocuments : s.documents.get? slug with
    | none =>
      rw [get?, statuses, hdocuments] at hget
      cases hget
    | some documents =>
      rw [get?, statuses, hdocuments] at hget
      exact ⟨(slug, documents), Dict.mem_entries_iff.mpr hdocuments, hget⟩

/-- What is active stands in the order of the slugs, each slug once. -/
theorem Filed.active_sorted (h : s.Filed) : s.active.Pairwise (slugOf · < slugOf ·) := by
  refine List.pairwise_filterMap.mpr (s.documents.sorted.imp_of_mem ?_)
  intro e e' he he' hlt raw hraw raw' hraw'
  have hslug : slugOf raw = e.1 := h.slug _ activeStatus _ (by rw [get?_of_mem he]; exact hraw)
  have hslug' : slugOf raw' = e'.1 := h.slug _ activeStatus _ (by rw [get?_of_mem he']; exact hraw')
  rwa [hslug, hslug']

end Store

namespace Engine

variable {e : Engine} {s : EngineState} {slug : String} {d : Document} {raw : Json}

theorem load_of_latest (hf : e.storeFault = none)
    (h : s.store.get? slug e.config.storeStatus = some raw) :
    e.load s slug = (Document.ofJson raw).mapError .schema := by
  simp [load, lookUp, hf, h]

theorem load_eq_notFound_iff (hf : e.storeFault = none) :
    e.load s slug = .error (.notFound slug) ↔ s.store.get? slug e.config.storeStatus = none := by
  cases hget : s.store.get? slug e.config.storeStatus with
  | none => simp [load, lookUp, hf, hget]
  | some raw =>
    rw [load_of_latest hf hget, except_mapError_eq_error]
    simp

/-- What loads has the slug that was asked for. -/
theorem slug_of_load (hs : s.store.Filed) (h : e.load s slug = .ok d) : d.slug = slug := by
  obtain ⟨_, raw, hget, hd⟩ := load_eq_ok_iff.mp h
  rw [Document.slug_of_ofJson (hs.wellFormed _ _ _ hget) hd, hs.slug _ _ _ hget]

/-- What the catalog tells of a raw document. -/
def listed? (raw : Json) : Option Meta :=
  (Document.ofJson raw).toOption.map (·.identity)

theorem listed?_eq_some_iff {m : Meta} :
    listed? raw = some m ↔ ∃ d, Document.ofJson raw = .ok d ∧ d.identity = m := by
  cases h : Document.ofJson raw <;> simp [listed?, h, Except.toOption]

theorem catalog_eq (hf : e.storeFault = none) :
    e.catalog s = .ok (s.store.active.filterMap listed?) := by
  simp [catalog, lookUp, hf]
  rfl

theorem catalog_sorted (hs : s.store.Filed) :
    (s.store.active.filterMap listed?).Pairwise (·.slug < ·.slug) := by
  refine List.pairwise_filterMap.mpr (hs.active_sorted.imp_of_mem ?_)
  intro raw raw' hraw hraw' hlt m hm m' hm'
  have hslug (raw : Json) (hraw : raw ∈ s.store.active) (m : Meta) (hm : listed? raw = some m) :
      m.slug = Store.slugOf raw := by
    obtain ⟨slug, hget⟩ := Store.mem_active_iff.mp hraw
    obtain ⟨d, hd, rfl⟩ := listed?_eq_some_iff.mp hm
    exact Document.slug_of_ofJson (hs.wellFormed _ _ _ hget) hd
  rwa [hslug raw hraw m hm, hslug raw' hraw' m' hm']

theorem mem_catalog_iff (hf : e.storeFault = none) (hc : e.config.storeStatus = Store.activeStatus)
    {m : Meta} : m ∈ s.store.active.filterMap listed? ↔
      ∃ slug d, e.load s slug = .ok d ∧ d.identity = m := by
  simp only [List.mem_filterMap, Store.mem_active_iff, listed?_eq_some_iff, load_eq_ok_iff, hf, hc,
    true_and]
  constructor
  · rintro ⟨raw, ⟨slug, hget⟩, d, hd, hm⟩
    exact ⟨slug, d, ⟨raw, hget, hd⟩, hm⟩
  · rintro ⟨slug, d, ⟨raw, hget, hd⟩, hm⟩
    exact ⟨raw, ⟨slug, hget⟩, d, hd, hm⟩

end Engine

namespace Operation

/-- What an operation inserts, with its status. -/
def inserted? : Operation → Option (String × Json)
  | .insert status raw => some (status, raw)
  | _ => none

theorem foldl_stored (ops : List Operation) (store : Store) : ops.foldl stored store =
    (ops.filterMap inserted?).foldl (fun s p => s.insert p.1 p.2) store := by
  induction ops generalizing store with
  | nil => rfl
  | cons op ops ih =>
    rw [List.foldl_cons, ih]
    cases op <;> rfl

theorem mem_inserted {ops : List Operation} {p : String × Json}
    (h : p ∈ ops.filterMap inserted?) : .insert p.1 p.2 ∈ ops := by
  obtain ⟨op, hop, hp⟩ := List.mem_filterMap.mp h
  cases op with
  | insert status raw =>
    cases hp
    exact hop
  | _ => cases hp

end Operation

namespace Engine

theorem store_of_final (e : Engine) (ops : List Operation) : (e.final .empty ops).store =
    (ops.filterMap Operation.inserted?).foldl (fun s p => s.insert p.1 p.2) .empty := by
  rw [final_state, ← Operation.foldl_stored]
  rfl

/-- Whatever is asked of an engine: under a slug it loads what was last inserted with that slug and
the status of the configuration, and nothing else. What loads has that slug, so that a valid document
loads from its insertion on until it is replaced. When active documents are the ones to load, the
catalog is in order and tells of exactly those that do. -/
theorem load_and_catalog_agree (config : EngineConfig) (sinks : Sinks)
    (completion : Except CollaboratorError String) (ops : List Operation)
    (h : ∀ status raw, .insert status raw ∈ ops → raw.WellFormed) :
    let e : Engine := ⟨config, sinks, none, completion⟩
    let s := e.final .empty ops
    let latest? (slug : String) :=
      Store.latest? (ops.filterMap Operation.inserted?) slug config.storeStatus
    (∀ slug, e.load s slug = .error (.notFound slug) ↔ latest? slug = none) ∧
      (∀ slug raw, latest? slug = some raw →
        e.load s slug = (Document.ofJson raw).mapError .schema) ∧
      (∀ slug d, e.load s slug = .ok d → d.slug = slug) ∧
      (∀ before raw after d, ops = before ++ .insert config.storeStatus raw :: after →
        Document.ofJson raw = .ok d →
        (∀ raw', .insert config.storeStatus raw' ∈ after → Store.slugOf raw' ≠ d.slug) →
        e.load s d.slug = .ok d) ∧
      (config.storeStatus = "active" → ∃ metas, e.catalog s = .ok metas ∧
        metas.Pairwise (·.slug < ·.slug) ∧
        ∀ m, m ∈ metas ↔ ∃ slug d, e.load s slug = .ok d ∧ d.identity = m) := by
  intro e s latest?
  have hget (slug : String) : s.store.get? slug config.storeStatus = latest? slug := by
    rw [store_of_final, Store.get?_foldl_insert]
  have hfiled : s.store.Filed := by
    rw [store_of_final]
    exact Store.filed_foldl_insert Store.filed_empty fun p hp =>
      h p.1 p.2 (Operation.mem_inserted hp)
  have hload (slug : String) (raw : Json) (hraw : latest? slug = some raw) :
      e.load s slug = (Document.ofJson raw).mapError .schema :=
    load_of_latest rfl ((hget slug).trans hraw)
  refine ⟨fun slug => ?_, hload, fun slug d => slug_of_load hfiled, ?_, ?_⟩
  · rw [load_eq_notFound_iff rfl, hget]
  · intro before raw after d hops hd hafter
    have hraw : raw.WellFormed := h config.storeStatus raw (by simp [hops])
    have hslug : d.slug = Store.slugOf raw := Document.slug_of_ofJson hraw hd
    have hlatest : latest? d.slug = some raw := by
      simp only [latest?, hops, List.filterMap_append, List.filterMap_cons, Operation.inserted?,
        hslug]
      refine Store.latest?_of_append fun p hp hp1 hp2 => ?_
      exact hafter p.2 (hp2 ▸ Operation.mem_inserted hp) (hp1.trans hslug.symm)
    rw [hload d.slug raw hlatest, hd]
    rfl
  · intro hactive
    exact ⟨_, catalog_eq rfl, catalog_sorted hfiled, fun m => mem_catalog_iff rfl hactive⟩

/-- A document and what there was of it before, and a draft. -/
def quoteInserts : List Operation :=
  let stub : Json := .object [("meta", .object [("slug", .text "quote")])]
  [.insert "active" stub,
    .insert "active" (.object [
      ("meta", .object [("title", .text "Quote"), ("slug", .text "quote"),
        ("description", .text "Asks for an offer")]),
      ("sections", .array [])]),
    .insert "draft" stub]

theorem load_and_catalog_agree_quoteInserts :
    (∀ status raw, .insert status raw ∈ quoteInserts → raw.WellFormed) ∧
      let e := recorder .default (.ok "")
      let s := e.final .empty quoteInserts
      ∃ d metas, e.load s "quote" = .ok d ∧ d.identity.title = "Quote" ∧
        e.catalog s = .ok metas ∧ d.identity ∈ metas := by
  have hwf : ∀ status raw, .insert status raw ∈ quoteInserts → raw.WellFormed := by
    intro status raw h
    simp only [quoteInserts, List.mem_cons, Operation.insert.injEq, List.not_mem_nil, or_false] at h
    obtain ⟨-, rfl⟩ | ⟨-, rfl⟩ | ⟨-, rfl⟩ := h <;>
      simp [Json.wellFormed_object_iff, Json.wellFormed_array_iff, Members.Distinct,
        Json.WellFormed.text]
  obtain ⟨-, hload, -, -, hcatalog⟩ :=
    load_and_catalog_agree .default ⟨.recording, .recording, .recording⟩ (.ok "") quoteInserts hwf
  have hquote := hload "quote" _ rfl
  obtain ⟨metas, hmetas, -, hmem⟩ := hcatalog rfl
  exact ⟨hwf, _, metas, hquote, rfl, hmetas, (hmem _).mpr ⟨"quote", _, hquote, rfl⟩⟩

end Engine

end AppDef
