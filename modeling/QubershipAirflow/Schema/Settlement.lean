import QubershipAirflow.Schema.Visits

/-! A run settles its visits in order. While no place that it reads lies inside a default
that it visits, the writes change nothing that decides where it goes next. -/
namespace QubershipAirflow.Schema

open Json Settling

def Outside (nodes : List Place) (place : Place) : Prop :=
  ∀ node ∈ nodes, ¬ node ++ ["default"] <+: place

/-- Two schemas of the same shape, apart from what the defaults of these nodes hold. -/
def Agrees (nodes : List Place) (schema schema' : Json) : Prop :=
  ∀ place, Outside nodes place → SameShape (schema.at? place) (schema'.at? place)

section Shapes

variable {nodes : List Place} {schema schema' : Json} {place : Place} {key : String}

theorem Outside.snoc (h : Outside nodes place) (hkey : key ≠ "default") :
    Outside nodes (place ++ [key]) := by
  intro node hnode hprefix
  rcases List.prefix_concat_iff.mp hprefix with heq | hprefix
  · have hlast := List.append_inj_right' heq rfl
    exact hkey (List.cons.inj hlast).1.symm
  · exact h node hnode hprefix

theorem Agrees.refl (nodes : List Place) (schema : Json) : Agrees nodes schema schema :=
  fun _ _ => SameShape.refl _

theorem Agrees.snoc_isSome (h : Agrees nodes schema schema') (hplace : Outside nodes place)
    (key : String) :
    (schema'.at? (place ++ [key])).isSome = (schema.at? (place ++ [key])).isSome := by
  have hshape := h place hplace
  rw [Bool.eq_iff_iff, at?_snoc_isSome_iff, at?_snoc_isSome_iff]
  constructor
  · rintro ⟨fields, hfields, hkey⟩
    rw [hfields] at hshape
    obtain ⟨others, hothers, hkeys⟩ := hshape.symm.exists_obj
    exact ⟨others, hothers, hkeys ▸ hkey⟩
  · rintro ⟨fields, hfields, hkey⟩
    rw [hfields] at hshape
    obtain ⟨others, hothers, hkeys⟩ := hshape.exists_obj
    exact ⟨others, hothers, hkeys ▸ hkey⟩

theorem Agrees.hasDefault_eq (h : Agrees nodes schema schema') (hplace : Outside nodes place) :
    hasDefault schema' place = hasDefault schema place :=
  h.snoc_isSome hplace "default"

theorem Agrees.propertiesAt_eq (h : Agrees nodes schema schema')
    (hplace : Outside nodes place) : propertiesAt schema' place = propertiesAt schema place := by
  have href := h (place ++ ["$ref"]) (hplace.snoc (by decide))
  unfold propertiesAt
  rw [h.snoc_isSome hplace "properties", href.bind_eq fun _ => rfl]

theorem Agrees.childAt_eq (h : Agrees nodes schema schema') (hplace : Outside nodes place)
    (hproperties : ∀ properties ∈ propertiesAt schema place, Outside nodes properties) :
    childAt schema' place key = childAt schema place key := by
  unfold childAt
  rw [h.propertiesAt_eq hplace]
  cases hat : propertiesAt schema place with
  | none => rfl
  | some properties =>
      have hsome := h.snoc_isSome (hproperties properties (by rw [hat]; rfl)) key
      rw [Option.bind_some, Option.bind_some, hsome]

end Shapes

section Static

variable {nodes : List Place} {schema schema' : Json}

theorem consulted_self (schema value : Json) (place : Place) :
    place ∈ consulted schema value place := by
  cases value <;> simp [consulted]

theorem consulted_obj {fields : List (String × Json)} {place : Place}
    (hundeclared : hasDefault schema place = false) :
    consulted schema (.obj fields) place = place :: consultedBelow schema fields place := by
  simp [consulted, hundeclared]

mutual

theorem Agrees.visits_eq (h : Agrees nodes schema schema') : ∀ (value : Json) (place : Place),
    (∀ read ∈ consulted schema value place, Outside nodes read) →
      visits schema' value place = visits schema value place
  | .obj fields, place, hread => by
      have hplace := hread place (consulted_self ..)
      rw [visits, visits, h.hasDefault_eq hplace]
      by_cases hdefault : hasDefault schema place = true
      · rw [if_pos hdefault, if_pos hdefault]
      · rw [if_neg hdefault, if_neg hdefault]
        rw [consulted_obj (by simpa using hdefault)] at hread
        exact h.visitsBelow_eq fields place hplace fun read hmem =>
          hread read (List.mem_cons_of_mem _ hmem)
  | .null, place, hread | .bool _, place, hread | .int _, place, hread
  | .float _, place, hread | .str _, place, hread | .arr _, place, hread => by
      rw [visits, visits, h.hasDefault_eq (hread place (consulted_self ..))]
      all_goals simp

theorem Agrees.visitsBelow_eq (h : Agrees nodes schema schema') :
    ∀ (fields : List (String × Json)) (place : Place), Outside nodes place →
      (∀ read ∈ consultedBelow schema fields place, Outside nodes read) →
        visitsBelow schema' fields place = visitsBelow schema fields place
  | [], _, _, _ => rfl
  | (key, value) :: rest, place, hplace, hread => by
      have hproperties : ∀ properties ∈ propertiesAt schema place, Outside nodes properties :=
        fun properties hmem => hread properties (mem_consultedBelow_cons.mpr (.inl hmem))
      have hrest := h.visitsBelow_eq rest place hplace fun read hmem =>
        hread read (mem_consultedBelow_cons.mpr (.inr (.inr hmem)))
      rw [visitsBelow, visitsBelow, h.childAt_eq hplace hproperties, hrest]
      cases hchild : childAt schema place key with
      | none => rfl
      | some child =>
          have hbelow := h.visits_eq value child fun read hmem =>
            hread read (mem_consultedBelow_cons.mpr (.inr (.inl ⟨child, hchild, hmem⟩)))
          simp only [hbelow]

end

end Static

/-- A schema on the way: it has the original's shape and holds what is settled so far. -/
structure Settled (nodes : List Place) (original : Json) (store : Place → Json)
    (schema : Json) : Prop where
  agrees : Agrees nodes original schema
  found : ∀ node ∈ nodes, defaultAt schema node = store node

section Run

variable {nodes : List Place} {original schema schema' value found : Json}
  {store : Place → Json} {node other : Place}

theorem default_notPrefix (hother : Outside nodes other) (hnode : node ∈ nodes)
    (hne : node ≠ other) : ¬ node ++ ["default"] <+: other ++ ["default"] := by
  intro hprefix
  rcases List.prefix_concat_iff.mp hprefix with heq | hprefix
  · exact hne (List.append_cancel_right heq)
  · exact hother node hnode hprefix

theorem Settled.assign (h : Settled nodes original store schema)
    (hguarded : ∀ node ∈ nodes, Outside nodes node) (hnode : node ∈ nodes)
    (hexists : (schema.at? (node ++ ["default"])).isSome = true)
    (hassign : schema.assign node "default" value = .ok schema') :
    Settled nodes original (Function.update store node value) schema' where
  agrees place hplace :=
    (h.agrees place hplace).trans (sameShape_assign hassign hexists (hplace node hnode))
  found other hother := by
    by_cases heq : other = node
    · subst heq
      rw [defaultAt, at?_assign hassign, Function.update_self, Option.getD_some]
    · have hbelow := default_notPrefix (hguarded other hother) hnode (Ne.symm heq)
      have habove := default_notPrefix (hguarded node hnode) hother heq
      rw [Function.update_of_ne heq, ← h.found other hother, defaultAt, defaultAt,
        at?_assign_apart hassign hbelow habove]

theorem Settled.settle (h : Settled nodes original store schema)
    (hguarded : ∀ node ∈ nodes, Outside nodes node) (hnode : node ∈ nodes)
    (hfound : schema.at? (node ++ ["default"]) = some found)
    (hsettle : (value.pyEq found = true ∧ schema' = schema) ∨
      (value.pyEq found = false ∧ schema.assign node "default" value = .ok schema')) :
    Settled nodes original (settle pyEq store (node, value)) schema' := by
  have hstore : store node = found := by
    rw [← h.found node hnode, defaultAt, hfound, Option.getD_some]
  unfold Settling.settle
  rw [hstore]
  rcases hsettle with ⟨heq, rfl⟩ | ⟨hne, hassign⟩
  · rw [if_pos heq]
    exact h
  · rw [if_neg (by rw [hne]; decide)]
    exact h.assign hguarded hnode (by rw [hfound]; rfl) hassign

theorem settleAll_visitsBelow {key : String} {child : Place} {rest : List (String × Json)}
    {place : Place} (hchild : childAt original place key = some child) :
    settleAll pyEq store (visitsBelow original ((key, value) :: rest) place) =
      settleAll pyEq (settleAll pyEq store (visits original value child))
        (visitsBelow original rest place) := by
  rw [visitsBelow, hchild, settleAll_append]

theorem visits_of_hasDefault (h : hasDefault original node = true) :
    visits original value node = [(node, value)] := by
  cases value <;> simp [visits, h]

mutual

theorem compareComplexElement_settles (hguarded : ∀ node ∈ nodes, Outside nodes node) :
    ∀ (value : Json) (place : Place) (store : Place → Json) (schema schema' : Json),
      compareComplexElement value place schema = .ok schema' →
      hasDefault original place = false →
      (∀ read ∈ consulted original value place, Outside nodes read) →
      (∀ visit ∈ visits original value place, visit.1 ∈ nodes) →
      Settled nodes original store schema →
        Settled nodes original (settleAll pyEq store (visits original value place)) schema'
  | .obj fields, place, store, schema, schema', h, hundeclared, hread, hvisits, hsettled => by
      have hplace := hread place (consulted_self ..)
      rw [consulted_obj hundeclared] at hread
      rw [visits, if_neg (by rw [hundeclared]; decide)] at hvisits ⊢
      exact compareItems_settles hguarded fields place store schema schema' h hplace
        (fun read hmem => hread read (List.mem_cons_of_mem _ hmem)) hvisits hsettled
  | .null, _, _, _, _, h, _, _, _, _ | .bool _, _, _, _, _, h, _, _, _, _
  | .int _, _, _, _, _, h, _, _, _, _ | .float _, _, _, _, _, h, _, _, _, _
  | .str _, _, _, _, _, h, _, _, _, _ | .arr _, _, _, _, _, h, _, _, _, _ => by
      cases h

theorem compareItems_settles (hguarded : ∀ node ∈ nodes, Outside nodes node) :
    ∀ (fields : List (String × Json)) (place : Place) (store : Place → Json)
      (schema schema' : Json), compareItems fields place schema = .ok schema' →
      Outside nodes place →
      (∀ read ∈ consultedBelow original fields place, Outside nodes read) →
      (∀ visit ∈ visitsBelow original fields place, visit.1 ∈ nodes) →
      Settled nodes original store schema →
        Settled nodes original (settleAll pyEq store (visitsBelow original fields place)) schema'
  | [], _, _, _, _, h, _, _, _, hsettled => by
      cases h
      exact hsettled
  | (key, value) :: rest, place, store, schema, schema', h, hplace, hread, hvisits,
      hsettled => by
      obtain ⟨outcome, hkey, h⟩ := PyError.bind_ok_iff.mp h
      have hproperties : ∀ properties ∈ propertiesAt original place, Outside nodes properties :=
        fun properties hmem => hread properties (mem_consultedBelow_cons.mpr (.inl hmem))
      have hreadRest : ∀ read ∈ consultedBelow original rest place, Outside nodes read :=
        fun read hmem => hread read (mem_consultedBelow_cons.mpr (.inr (.inr hmem)))
      have hvisitsRest : ∀ visit ∈ visitsBelow original rest place, visit.1 ∈ nodes :=
        fun visit hmem => hvisits visit (mem_visitsBelow_cons.mpr (.inr hmem))
      have hsame : childAt schema place key = childAt original place key :=
        hsettled.agrees.childAt_eq hplace hproperties
      rcases compareKey_cases hkey with ⟨hnone, rfl⟩ | ⟨child, hchild, hcase⟩
      · rw [hnone] at hsame
        rw [visitsBelow, ← hsame, List.nil_append]
        exact compareItems_settles hguarded rest place store schema schema' h hplace hreadRest
          hvisitsRest hsettled
      · rw [hchild] at hsame
        have hreadChild : ∀ read ∈ consulted original value child, Outside nodes read :=
          fun read hmem =>
            hread read (mem_consultedBelow_cons.mpr (.inr (.inl ⟨child, hsame.symm, hmem⟩)))
        have hvisitsChild : ∀ visit ∈ visits original value child, visit.1 ∈ nodes :=
          fun visit hmem =>
            hvisits visit (mem_visitsBelow_cons.mpr (.inl ⟨child, hsame.symm, hmem⟩))
        have hdefault := hsettled.agrees.hasDefault_eq (hreadChild child (consulted_self ..))
        rw [settleAll_visitsBelow hsame.symm]
        rcases hcase with ⟨hundeclared, rfl⟩ | ⟨found, hfound, hsettle⟩
        · obtain ⟨between, hchildRun, h⟩ := PyError.bind_ok_iff.mp h
          rw [hundeclared] at hdefault
          have hbelow := compareComplexElement_settles hguarded value child store schema between
            hchildRun hdefault.symm hreadChild hvisitsChild hsettled
          exact compareItems_settles hguarded rest place _ between schema' h hplace hreadRest
            hvisitsRest hbelow
        · have hdeclared : hasDefault original child = true := by
            rw [← hdefault, hasDefault_of_at? hfound]
          rw [visits_of_hasDefault hdeclared] at hvisitsChild ⊢
          have hnode : child ∈ nodes := hvisitsChild _ (List.mem_singleton.mpr rfl)
          rcases hsettle with ⟨heq, rfl⟩ | ⟨hne, between, hassign, rfl⟩
          · exact compareItems_settles hguarded rest place _ schema schema' h hplace hreadRest
              hvisitsRest (hsettled.settle hguarded hnode hfound (.inl ⟨heq, rfl⟩))
          · exact compareItems_settles hguarded rest place _ between schema' h hplace hreadRest
              hvisitsRest (hsettled.settle hguarded hnode hfound (.inr ⟨hne, hassign⟩))

end

end Run

end QubershipAirflow.Schema
