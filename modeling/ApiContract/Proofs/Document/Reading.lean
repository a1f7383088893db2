import ApiContract.Proofs.Document.ReadBack

/-!
# What is read is proper

Whatever node a document is read from, the document is proper: readers of counts refuse
those of more than 64 bits, readers of maps keep one value for each key, and every schema
in the document comes from a reader of schemas.
-/

namespace ApiContract

/-! ## Readers of parts -/

-- The congruence lemma for `Option.bind` makes `simp` look at each reader of a chain twice,
-- so chains are taken apart as they are written.
theorem bind_eq_some_iff {α β : Type} {x : Option α} {f : α → Option β} {y : β} :
    (x >>= f) = some y ↔ ∃ a, x = some a ∧ f a = some y :=
  Option.bind_eq_some_iff

namespace Node

variable {α : Type} {read : ℕ → Node → Option α} {limit : ℕ} {node : Node} {name : String}

theorem exists_of_option? {read : Node → Option α} {x : α}
    (h : option? read node = some (some x)) : read node = some x := by
  have hread (h : (read node).map some = some (some x)) : read node = some x := by
    obtain ⟨found, hfound, hsome⟩ := Option.map_eq_some_iff.mp h
    rwa [← Option.some.inj hsome]
  cases node with
  | null => cases h
  | scalar s =>
      simp only [option?] at h
      split at h
      · cases h
      · cases h
      · exact hread h
  | _ => exact hread h

/-- What is read of an optional field comes from a node. -/
theorem Record.exists_of_optional? {r : Record} {read : Node → Option α} {x : α}
    (h : r.optional? name read = some (some x)) : ∃ node, read node = some x := by
  rw [Record.optional?] at h
  split at h
  · exact ⟨_, exists_of_option? h⟩
  · cases h
  · cases h

/-- What is read of a field with a default comes from a node or is the default. -/
theorem Record.cases_of_defaulted? {r : Record} {read : Node → Option α} {value x : α}
    (h : r.defaulted? name value read = some x) : x = value ∨ ∃ node, read node = some x := by
  rw [Record.defaulted?] at h
  split at h
  · exact Or.inr ⟨_, h⟩
  · exact Or.inl (Option.some.inj h).symm

theorem lt_of_toCount? {n : ℕ} (h : toCount? node = some n) : n < 2 ^ 64 := by
  rw [toCount?.eq_def] at h
  split at h
  · split at h
    · rename_i hbound
      cases h
      exact hbound.2
    · cases h
  · rw [Yaml.Scalar.toCount?] at h
    split at h
    · exact of_decide_eq_true (Option.filter_eq_some_iff.mp h).2
    · cases h
  · cases h

theorem exists_of_mem_mapM {read : Node → Option α} {nodes : List Node} {xs : List α} {x : α}
    (h : nodes.mapM read = some xs) (hmem : x ∈ xs) : ∃ node, read node = some x := by
  induction nodes generalizing xs with
  | nil =>
      cases h
      cases hmem
  | cons first rest ih =>
      rw [List.mapM_cons] at h
      obtain ⟨y, hy, h⟩ := Option.bind_eq_some_iff.mp h
      obtain ⟨ys, hys, h⟩ := Option.bind_eq_some_iff.mp h
      cases h
      rcases List.mem_cons.mp hmem with rfl | hmem
      · exact ⟨first, hy⟩
      · exact ih hys hmem

/-- What is in a list that is read comes from the reader of its items. -/
theorem exists_of_mem_list? {xs : List α} {x : α} (h : list? read limit node = some xs)
    (hmem : x ∈ xs) : ∃ node, read (limit - 1) node = some x := by
  obtain ⟨items, -, h⟩ := Option.bind_eq_some_iff.mp h
  exact exists_of_mem_mapM h hmem

theorem exists_of_mem_values? {read : Node → Option α} {nodes : List (String × Node)}
    {values : List (String × α)} {e : String × α} (h : values? read nodes = some values)
    (hmem : e ∈ values) : ∃ node, read node = some e.2 := by
  induction nodes generalizing values with
  | nil =>
      cases h
      cases hmem
  | cons first rest ih =>
      rw [values?] at h
      obtain ⟨y, hy, h⟩ := Option.bind_eq_some_iff.mp h
      obtain ⟨ys, hys, h⟩ := Option.bind_eq_some_iff.mp h
      cases h
      rcases List.mem_cons.mp hmem with rfl | hmem
      · exact ⟨first.2, hy⟩
      · exact ih hys hmem

theorem mem_of_mem_putLast {x : α} {map : List (String × α)} {e : String × α}
    (h : e ∈ putLast name x map) : e = (name, x) ∨ e ∈ map := by
  induction map with
  | nil => exact Or.inl (List.mem_singleton.mp h)
  | cons first rest ih =>
      rw [putLast] at h
      split at h
      · exact (List.mem_cons.mp h).imp_right (List.mem_cons_of_mem _)
      · rcases List.mem_cons.mp h with rfl | h
        · exact Or.inr List.mem_cons_self
        · exact (ih h).imp_right (List.mem_cons_of_mem _)

theorem nodup_putLast {x : α} {map : List (String × α)} (h : (map.map (·.1)).Nodup) :
    ((putLast name x map).map (·.1)).Nodup := by
  induction map with
  | nil => exact List.nodup_singleton _
  | cons first rest ih =>
      obtain ⟨hfirst, hrest⟩ := List.nodup_cons.mp h
      rw [putLast]
      split
      · rename_i hsame
        rw [hsame]
        exact h
      · rename_i hne
        refine List.nodup_cons.mpr ⟨?_, ih hrest⟩
        intro hmem
        obtain ⟨e, he, hkey⟩ := List.mem_map.mp hmem
        rcases mem_of_mem_putLast he with rfl | he
        · exact hne hkey
        · exact hfirst (List.mem_map.mpr ⟨e, he, hkey⟩)

/-- A map of entries has different keys, and values of the entries only. -/
theorem mapOfEntries_spec (entries : List (String × α)) :
    ((mapOfEntries entries).map (·.1)).Nodup ∧ mapOfEntries entries ⊆ entries := by
  suffices hfold : ∀ start : List (String × α), (start.map (·.1)).Nodup →
      ((entries.foldl (fun map e => putLast e.1 e.2 map) start).map (·.1)).Nodup ∧
        entries.foldl (fun map e => putLast e.1 e.2 map) start ⊆ start ++ entries by
    simpa [mapOfEntries] using hfold []
  induction entries with
  | nil =>
      intro start hstart
      exact ⟨hstart, by simp⟩
  | cons first rest ih =>
      intro start hstart
      obtain ⟨hkeys, hsubset⟩ := ih _ (nodup_putLast hstart)
      refine ⟨hkeys, ?_⟩
      intro e he
      rcases List.mem_append.mp (hsubset he) with he | he
      · rcases mem_of_mem_putLast he with rfl | he
        · simp
        · exact List.mem_append_left _ he
      · exact List.mem_append_right _ (List.mem_cons_of_mem _ he)

/-- A map that is read has different keys, and its values come from their reader. -/
theorem map?_spec {map : List (String × α)} (h : map? read limit node = some map) :
    (map.map (·.1)).Nodup ∧ ∀ e ∈ map, ∃ node, read (limit - 1) node = some e.2 := by
  obtain ⟨entries, -, h⟩ := Option.bind_eq_some_iff.mp h
  obtain ⟨values, hvalues, h⟩ := Option.bind_eq_some_iff.mp h
  cases h
  obtain ⟨hkeys, hsubset⟩ := mapOfEntries_spec values
  exact ⟨hkeys, fun e he => exists_of_mem_values? hvalues (hsubset he)⟩

/-- So has a map that is read of a field which is empty where it is left out. -/
theorem Record.defaulted?_map?_spec {r : Record} {map : List (String × α)}
    (h : r.defaulted? name [] (map? read limit) = some map) :
    (map.map (·.1)).Nodup ∧ ∀ e ∈ map, ∃ node, read (limit - 1) node = some e.2 := by
  rcases Record.cases_of_defaulted? h with rfl | ⟨node, hmap⟩
  · exact ⟨List.nodup_nil, by simp⟩
  · exact map?_spec hmap

/-- What is in a list of a field which is empty where it is left out comes from the reader
of its items. -/
theorem Record.exists_of_mem_defaulted?_list? {r : Record} {xs : List α} {x : α}
    (h : r.defaulted? name [] (list? read limit) = some xs) (hmem : x ∈ xs) :
    ∃ node, read (limit - 1) node = some x := by
  rcases Record.cases_of_defaulted? h with rfl | ⟨node, hlist⟩
  · cases hmem
  · exact exists_of_mem_list? hlist hmem

/-- A count that is read of an optional field fits 64 bits. -/
theorem Record.lt_of_optional?_toCount? {r : Record} {x : Option ℕ}
    (h : r.optional? name toCount? = some x) : ∀ n, x = some n → n < 2 ^ 64 := by
  rintro n rfl
  obtain ⟨node, hnode⟩ := Record.exists_of_optional? h
  exact lt_of_toCount? hnode

end Node

/-! ## Schemas -/

theorem Discriminator.nodup_of_ofNode? {limit : ℕ} {node : Node} {d : Discriminator}
    (h : Discriminator.ofNode? limit node = some d) : (d.mapping.map (·.1)).Nodup := by
  cases limit with
  | zero => cases h
  | succ limit =>
      simp only [Discriminator.ofNode?, bind_eq_some_iff] at h
      obtain ⟨r, -, propertyName, -, mapping, hmapping, h⟩ := h
      cases h
      exact (Node.Record.defaulted?_map?_spec hmapping).1

namespace Schema

variable {limit : ℕ} {node : Node} {r : Node.Record} {k : Keywords} {schema : Schema}

theorem isProper_of_keywordsOf? (h : keywordsOf? limit r = some k) : k.IsProper := by
  simp only [keywordsOf?, bind_eq_some_iff] at h
  obtain ⟨ref, -, type, -, format, -, title, -, description, -, required, -, enum, henum,
    discriminator, hdiscriminator, minimum, -, maximum, -, multipleOf, -, minLength, hminLength,
    maxLength, hmaxLength, pattern, -, minItems, hminItems, maxItems, hmaxItems, uniqueItems, -,
    nullable, -, h⟩ := h
  cases h
  constructor
  case enum =>
    rintro values rfl value hvalue
    obtain ⟨node, hvalues⟩ := Node.Record.exists_of_optional? henum
    obtain ⟨item, hitem⟩ := Node.exists_of_mem_list? hvalues hvalue
    exact Node.canonical_of_toJson? hitem
  case mapping =>
    rintro d rfl
    obtain ⟨node, hd⟩ := Node.Record.exists_of_optional? hdiscriminator
    exact d.nodup_of_ofNode? hd
  case minLength => exact Node.Record.lt_of_optional?_toCount? hminLength
  case maxLength => exact Node.Record.lt_of_optional?_toCount? hmaxLength
  case minItems => exact Node.Record.lt_of_optional?_toCount? hminItems
  case maxItems => exact Node.Record.lt_of_optional?_toCount? hmaxItems

theorem exists_of_additionalOf? {read : Node → Option Schema}
    (h : additionalOf? read limit node = some (.matching schema)) :
    ∃ node, read node = some schema := by
  obtain ⟨resolved, -, h⟩ := Option.bind_eq_some_iff.mp h
  split at h
  · cases h
  · obtain ⟨found, hfound, hsame⟩ := Option.map_eq_some_iff.mp h
    cases hsame
    exact ⟨resolved, hfound⟩

/-- A schema that is read is proper.  Its parts are read with a lower limit. -/
theorem isProper_of_ofNode? (h : ofNode? limit node = some schema) : schema.IsProper := by
  induction limit using Nat.strong_induction_on generalizing node schema with
  | _ limit ih =>
      cases limit with
      | zero =>
          rw [ofNode?] at h
          cases h
      | succ limit =>
          simp only [ofNode?_succ, bind_eq_some_iff] at h
          obtain ⟨r, -, keywords, hkeywords, properties, hproperties, items, hitems, allOf, hallOf,
            oneOf, honeOf, anyOf, hanyOf, additional, hadditional, h⟩ := h
          cases h
          have hlist {name : String} {members : List Schema} {part : Schema}
              (hread : r.optional? name (Node.list? ofNode? limit) = some (some members))
              (hmem : part ∈ members) : part.IsProper := by
            obtain ⟨node, hmembers⟩ := Node.Record.exists_of_optional? hread
            obtain ⟨inner, hinner⟩ := Node.exists_of_mem_list? hmembers hmem
            exact ih (limit - 1) (by omega) hinner
          obtain ⟨hkeys, hvalues⟩ := Node.Record.defaulted?_map?_spec hproperties
          refine .intro ⟨isProper_of_keywordsOf? hkeywords, hkeys⟩ ?_
          intro part hpart
          cases hpart with
          | property hmem =>
              obtain ⟨inner, hinner⟩ := hvalues _ hmem
              exact ih (limit - 1) (by omega) hinner
          | items hpart =>
              obtain rfl : items = some part := hpart
              obtain ⟨inner, hinner⟩ := Node.Record.exists_of_optional? hitems
              exact ih limit (Nat.lt_succ_self limit) hinner
          | allOf hmembers hmem =>
              obtain rfl : allOf = some _ := hmembers
              exact hlist hallOf hmem
          | oneOf hmembers hmem =>
              obtain rfl : oneOf = some _ := hmembers
              exact hlist honeOf hmem
          | anyOf hmembers hmem =>
              obtain rfl : anyOf = some _ := hmembers
              exact hlist hanyOf hmem
          | additional hpart =>
              obtain rfl : additional = some (.matching part) := hpart
              obtain ⟨node, hnode⟩ := Node.Record.exists_of_optional? hadditional
              obtain ⟨inner, hinner⟩ := exists_of_additionalOf? hnode
              exact ih limit (Nat.lt_succ_self limit) hinner

end Schema

/-! ## The parts of a document -/

section Spine

variable {limit : ℕ} {node : Node} {schema : Schema}

/-- The schema of a field is proper. -/
theorem isProper_of_optional? {r : Node.Record} {name : String} {x : Option Schema}
    (h : r.optional? name (Schema.ofNode? limit) = some x) :
    ∀ schema ∈ x.toList, schema.IsProper := by
  intro schema hschema
  obtain rfl := Option.mem_toList.mp hschema
  obtain ⟨node, hnode⟩ := Node.Record.exists_of_optional? h
  exact Schema.isProper_of_ofNode? hnode

theorem Parameter.isProper_of_ofNode? {p : Parameter} (h : Parameter.ofNode? limit node = some p) :
    ∀ schema ∈ p.schema.toList, schema.IsProper := by
  cases limit with
  | zero => cases h
  | succ limit =>
      simp only [Parameter.ofNode?, bind_eq_some_iff] at h
      obtain ⟨r, -, name, -, location, -, required, -, description, -, schema, hschema, h⟩ := h
      cases h
      exact isProper_of_optional? hschema

theorem ParameterOrRef.isProper_of_ofNode? {p : ParameterOrRef}
    (h : ParameterOrRef.ofNode? limit node = some p) :
    ∀ schema ∈ p.rootSchemas, schema.IsProper := by
  obtain ⟨resolved, -, h⟩ := Option.bind_eq_some_iff.mp h
  split at h
  · cases h
    simp [ParameterOrRef.rootSchemas]
  · obtain ⟨parameter, hparameter, rfl⟩ := Option.map_eq_some_iff.mp h
    exact Parameter.isProper_of_ofNode? hparameter

/-- The schemas of the parameters of a field are proper. -/
theorem isProper_of_parameters {r : Node.Record} {name : String} {parameters : List ParameterOrRef}
    (h : r.defaulted? name [] (Node.list? ParameterOrRef.ofNode? limit) = some parameters) :
    ∀ schema ∈ parameters.flatMap ParameterOrRef.rootSchemas, schema.IsProper := by
  intro schema hschema
  obtain ⟨p, hp, hmem⟩ := List.mem_flatMap.mp hschema
  obtain ⟨node, hnode⟩ := Node.Record.exists_of_mem_defaulted?_list? h hp
  exact ParameterOrRef.isProper_of_ofNode? hnode schema hmem

theorem MediaType.isProper_of_ofNode? {m : MediaType} (h : MediaType.ofNode? limit node = some m) :
    ∀ schema ∈ m.schema.toList, schema.IsProper := by
  cases limit with
  | zero => cases h
  | succ limit =>
      simp only [MediaType.ofNode?, bind_eq_some_iff] at h
      obtain ⟨r, -, schema, hschema, h⟩ := h
      cases h
      exact isProper_of_optional? hschema

theorem RequestBody.isProper_of_ofNode? {b : RequestBody}
    (h : RequestBody.ofNode? limit node = some b) :
    (b.content.map (·.1)).Nodup ∧ ∀ schema ∈ b.rootSchemas, schema.IsProper := by
  cases limit with
  | zero => cases h
  | succ limit =>
      simp only [RequestBody.ofNode?, bind_eq_some_iff] at h
      obtain ⟨r, -, description, -, required, -, content, hcontent, h⟩ := h
      cases h
      obtain ⟨hkeys, hvalues⟩ := Node.Record.defaulted?_map?_spec hcontent
      refine ⟨hkeys, ?_⟩
      intro schema hschema
      obtain ⟨e, he, hmem⟩ := List.mem_flatMap.mp hschema
      obtain ⟨node, hnode⟩ := hvalues e he
      exact MediaType.isProper_of_ofNode? hnode schema hmem

theorem hasDistinctKeys_of_requirementOf? {requirement : SecurityRequirement}
    (h : requirementOf? limit node = some requirement) : requirement.HasDistinctKeys :=
  (Node.map?_spec h).1

theorem Operation.isProper_of_ofNode? {o : Operation} (h : Operation.ofNode? limit node = some o) :
    o.HasDistinctKeys ∧ ∀ schema ∈ o.rootSchemas, schema.IsProper := by
  cases limit with
  | zero => cases h
  | succ limit =>
      simp only [Operation.ofNode?, bind_eq_some_iff] at h
      obtain ⟨r, -, summary, -, description, -, operationId, -, parameters, hparameters,
        requestBody, hbody, security, hsecurity, h⟩ := h
      cases h
      have hread {b : RequestBody} (hb : requestBody = some b) :
          (b.content.map (·.1)).Nodup ∧ ∀ schema ∈ b.rootSchemas, schema.IsProper := by
        obtain ⟨node, hnode⟩ := Node.Record.exists_of_optional? (hb ▸ hbody)
        exact RequestBody.isProper_of_ofNode? hnode
      refine ⟨⟨fun b hb => (hread hb).1, ?_⟩, ?_⟩
      · rintro requirements hrequirements requirement hmem
        obtain rfl : security = some requirements := hrequirements
        obtain ⟨node, hnode⟩ := Node.Record.exists_of_optional? hsecurity
        obtain ⟨inner, hinner⟩ := Node.exists_of_mem_list? hnode hmem
        exact hasDistinctKeys_of_requirementOf? hinner
      · intro schema hschema
        rcases List.mem_append.mp hschema with hschema | hschema
        · exact isProper_of_parameters hparameters schema hschema
        · obtain ⟨b, hb, hmem⟩ := List.mem_flatMap.mp hschema
          exact (hread (Option.mem_toList.mp hb)).2 schema hmem

theorem PathItem.isProper_of_ofNode? {p : PathItem} (h : PathItem.ofNode? limit node = some p) :
    (∀ o ∈ p.operations, o.HasDistinctKeys) ∧ ∀ schema ∈ p.rootSchemas, schema.IsProper := by
  cases limit with
  | zero => cases h
  | succ limit =>
      simp only [PathItem.ofNode?, bind_eq_some_iff] at h
      obtain ⟨r, -, summary, -, description, -, get, hget, put, hput, post, hpost, delete, hdelete,
        options, hoptions, head, hhead, patch, hpatch, trace, htrace, parameters, hparameters,
        h⟩ := h
      cases h
      have hread {name : String} {o : Operation}
          (hread : r.optional? name (Operation.ofNode? limit) = some (some o)) :
          o.HasDistinctKeys ∧ ∀ schema ∈ o.rootSchemas, schema.IsProper := by
        obtain ⟨node, hnode⟩ := Node.Record.exists_of_optional? hread
        exact Operation.isProper_of_ofNode? hnode
      have heach : ∀ o ∈ [get, put, post, delete, options, head, patch, trace].filterMap id,
          o.HasDistinctKeys ∧ ∀ schema ∈ o.rootSchemas, schema.IsProper := by
        intro o ho
        obtain ⟨operation, hmem, hsome⟩ := List.mem_filterMap.mp ho
        obtain rfl : operation = some o := hsome
        simp only [List.mem_cons, List.not_mem_nil, or_false] at hmem
        rcases hmem with rfl | rfl | rfl | rfl | rfl | rfl | rfl | rfl
        exacts [hread hget, hread hput, hread hpost, hread hdelete, hread hoptions, hread hhead,
          hread hpatch, hread htrace]
      refine ⟨fun o ho => (heach o ho).1, ?_⟩
      intro schema hschema
      rcases List.mem_append.mp hschema with hschema | hschema
      · obtain ⟨o, ho, hmem⟩ := List.mem_flatMap.mp hschema
        exact (heach o ho).2 schema hmem
      · exact isProper_of_parameters hparameters schema hschema

theorem Components.isProper_of_ofNode? {c : Components}
    (h : Components.ofNode? limit node = some c) :
    c.HasDistinctKeys ∧ ∀ schema ∈ c.rootSchemas, schema.IsProper := by
  cases limit with
  | zero => cases h
  | succ limit =>
      simp only [Components.ofNode?, bind_eq_some_iff] at h
      obtain ⟨r, -, schemas, hschemas, parameters, hparameters, schemes, hschemes, h⟩ := h
      cases h
      obtain ⟨hnames, hvalues⟩ := Node.Record.defaulted?_map?_spec hschemas
      obtain ⟨hnames', hvalues'⟩ := Node.Record.defaulted?_map?_spec hparameters
      refine ⟨⟨hnames, hnames', (Node.Record.defaulted?_map?_spec hschemes).1⟩, ?_⟩
      intro schema hschema
      rcases List.mem_append.mp hschema with hschema | hschema
      · obtain ⟨e, he, rfl⟩ := List.mem_map.mp hschema
        obtain ⟨node, hnode⟩ := hvalues e he
        exact Schema.isProper_of_ofNode? hnode
      · obtain ⟨e, he, hmem⟩ := List.mem_flatMap.mp hschema
        obtain ⟨node, hnode⟩ := hvalues' e he
        exact Parameter.isProper_of_ofNode? hnode schema hmem

/-- A document that is read is proper. -/
theorem Document.isProper_of_ofNode? {d : Document} (h : Document.ofNode? limit node = some d) :
    d.IsProper := by
  cases limit with
  | zero => cases h
  | succ limit =>
      simp only [Document.ofNode?, bind_eq_some_iff] at h
      obtain ⟨r, -, version, -, info, -, servers, -, paths, hpaths, components, hcomponents,
        security, hsecurity, h⟩ := h
      cases h
      obtain ⟨hkeys, hvalues⟩ := Node.Record.defaulted?_map?_spec hpaths
      have hitem {e : String × PathItem} (he : e ∈ paths) :
          (∀ o ∈ e.2.operations, o.HasDistinctKeys) ∧
            ∀ schema ∈ e.2.rootSchemas, schema.IsProper := by
        obtain ⟨node, hnode⟩ := hvalues e he
        exact PathItem.isProper_of_ofNode? hnode
      have hread {c : Components} (hc : components = some c) :
          c.HasDistinctKeys ∧ ∀ schema ∈ c.rootSchemas, schema.IsProper := by
        obtain ⟨node, hnode⟩ := Node.Record.exists_of_optional? (hc ▸ hcomponents)
        exact Components.isProper_of_ofNode? hnode
      refine ⟨⟨hkeys, fun e he => (hitem he).1, fun c hc => (hread hc).1, ?_⟩, ?_⟩
      · intro requirement hmem
        obtain ⟨node, hnode⟩ := Node.Record.exists_of_mem_defaulted?_list? hsecurity hmem
        exact hasDistinctKeys_of_requirementOf? hnode
      · intro schema hschema
        rcases List.mem_append.mp hschema with hschema | hschema
        · obtain ⟨e, he, hmem⟩ := List.mem_flatMap.mp hschema
          exact (hitem he).2 schema hmem
        · obtain ⟨c, hc, hmem⟩ := List.mem_flatMap.mp hschema
          exact (hread (Option.mem_toList.mp hc)).2 schema hmem

end Spine

end ApiContract
