import QubershipAirflow.Schema.Sketches

/-! Kept parameters that are parts of others: what an outline of both leaves of the
community schema. -/
namespace QubershipAirflow.Schema

open Json

/-- A sketch of the node at a path has all of the node, as far as properties are found by
the kept paths. -/
def SketchedWhole (paths : Set (List String)) (schema : Json) (path : List String) : Prop :=
  ∀ node, schema.at? (nodePlace path) = some node →
    (∀ value, node.at? ["additionalProperties"] = some value → value = .bool true) ∧
    ∀ key, (node.at? ["properties", key]).isSome = true →
      ∃ other ∈ paths, path ++ [key] <+: other

/-- A path that extends another one keeps what is between them whole, and is copied as it
is. -/
def KeptWhole (communitySchema : Json) (paths : Set (List String)) (schema : Json)
    (path extended : List String) : Prop :=
  (∀ node copied, schema.at? (nodePlace extended) = some node →
    Inlines communitySchema node copied → Alike (some copied) (some node)) ∧
  ∀ between, path <+: between → between <+: extended → between ≠ extended →
    SketchedWhole paths schema between

def OverlapsWhole (communitySchema : Json) (paths : Set (List String)) (schema : Json) : Prop :=
  ∀ path ∈ paths, ∀ extended ∈ paths, path <+: extended → path ≠ extended →
    KeptWhole communitySchema paths schema path extended

def Exist (paths : Set (List String)) (schema : Json) : Prop :=
  ∀ path ∈ paths, (schema.at? (nodePlace path)).isSome = true

section Below

variable {communitySchema schema child : Json} {paths : Set (List String)} {key : String}
  {path rest : List String}

theorem at?_nodePlace_of_child (h : schema.at? ["properties", key] = some child)
    (path : List String) :
    schema.at? (nodePlace (key :: path)) = child.at? (nodePlace path) := by
  rw [at?_nodePlace_cons, h, Option.bind_some]

theorem Exist.exists_child (h : Exist paths schema) (hpath : key :: rest ∈ paths) :
    ∃ child, schema.at? ["properties", key] = some child := by
  have hexists := h _ hpath
  rw [at?_nodePlace_cons] at hexists
  exact Option.isSome_iff_exists.mp (Option.isSome_of_isSome_bind hexists)

theorem Exist.below (h : Exist paths schema)
    (hchild : schema.at? ["properties", key] = some child) :
    Exist (pathsBelow paths key) child := by
  intro path hpath
  rw [← at?_nodePlace_of_child hchild]
  exact h _ hpath

theorem Exist.hasProperties (h : Exist paths schema) (hpath : key :: rest ∈ paths) :
    ∃ properties, schema.at? ["properties"] = some (.obj properties) := by
  obtain ⟨child, hchild⟩ := h.exists_child hpath
  have habove : (schema.at? (["properties"] ++ [key])).isSome = true :=
    Option.isSome_of_eq_some hchild
  exact exists_obj_above habove

theorem sketchedWhole_cons_iff (hchild : schema.at? ["properties", key] = some child) :
    SketchedWhole paths schema (key :: path) ↔ SketchedWhole (pathsBelow paths key) child path := by
  rw [SketchedWhole, at?_nodePlace_of_child hchild, SketchedWhole]
  refine forall_congr' fun node => imp_congr_right fun _ => and_congr_right fun _ =>
    forall_congr' fun name => imp_congr_right fun _ => ?_
  constructor
  · rintro ⟨other, hother, rest, rfl⟩
    exact ⟨path ++ [name] ++ rest, by simpa using hother, List.prefix_append _ _⟩
  · rintro ⟨other, hother, hprefix⟩
    exact ⟨key :: other, hother, List.cons_prefix_cons.mpr ⟨rfl, hprefix⟩⟩

theorem keptWhole_cons_iff (hchild : schema.at? ["properties", key] = some child) :
    KeptWhole communitySchema paths schema (key :: path) (key :: rest) ↔
      KeptWhole communitySchema (pathsBelow paths key) child path rest := by
  rw [KeptWhole, at?_nodePlace_of_child hchild, KeptWhole]
  refine and_congr_right fun _ => ⟨fun h between hpath hrest hne => ?_, ?_⟩
  · rw [← sketchedWhole_cons_iff hchild]
    apply h
    · exact List.cons_prefix_cons.mpr ⟨rfl, hpath⟩
    · exact List.cons_prefix_cons.mpr ⟨rfl, hrest⟩
    · simpa using hne
  · intro h between habove hbelow hne
    cases between with
    | nil => simp at habove
    | cons first between =>
        obtain ⟨rfl, hpath⟩ := List.cons_prefix_cons.mp habove
        obtain ⟨-, hrest⟩ := List.cons_prefix_cons.mp hbelow
        rw [sketchedWhole_cons_iff hchild]
        exact h between hpath hrest (by simpa using hne)

theorem keptWhole_nil_cons_iff (hchild : schema.at? ["properties", key] = some child) :
    KeptWhole communitySchema paths schema [] (key :: rest) ↔
      SketchedWhole paths schema [] ∧
        KeptWhole communitySchema (pathsBelow paths key) child [] rest := by
  rw [← keptWhole_cons_iff hchild, KeptWhole, KeptWhole]
  constructor
  · rintro ⟨hcopied, hbetween⟩
    refine ⟨hbetween [] List.nil_prefix List.nil_prefix (by simp), hcopied, ?_⟩
    intro between hpath
    exact hbetween between List.nil_prefix
  · rintro ⟨htop, hcopied, hbetween⟩
    refine ⟨hcopied, fun between _ hrest hne => ?_⟩
    cases between with
    | nil => exact htop
    | cons first between =>
        obtain ⟨rfl, -⟩ := List.cons_prefix_cons.mp hrest
        exact hbetween _ (by simp) hrest hne

theorem OverlapsWhole.below (h : OverlapsWhole communitySchema paths schema)
    (hchild : schema.at? ["properties", key] = some child) :
    OverlapsWhole communitySchema (pathsBelow paths key) child := by
  intro path hpath extended hextended hprefix hne
  rw [← keptWhole_cons_iff hchild]
  apply h _ hpath _ hextended
  · exact List.cons_prefix_cons.mpr ⟨rfl, hprefix⟩
  · simpa using hne

theorem OverlapsWhole.of_nil (h : OverlapsWhole communitySchema paths schema) (hnil : [] ∈ paths)
    (hpath : key :: rest ∈ paths) : KeptWhole communitySchema paths schema [] (key :: rest) :=
  h _ hnil _ hpath List.nil_prefix (by simp)

end Below

section Rendered

variable {communitySchema node element target copied : Json} {original found : Option Json}
  {paths : Set (List String)} {outline : Outline String} {below : String → Outline String}
  {key : String} {path rest : List String}

theorem alike_of_properties {first second : Json} {properties others : List (String × Json)}
    (hfirst : first.at? ["properties"] = some (.obj properties))
    (hsecond : second.at? ["properties"] = some (.obj others))
    (hkeywords : ∀ key, key ≠ "properties" → first.at? [key] = second.at? [key])
    (hchildren : ∀ key, Alike (first.at? ["properties", key]) (second.at? ["properties", key])) :
    Alike (some first) (some second) := by
  obtain ⟨fields, rfl⟩ := exists_obj_of_at?_cons hfirst
  obtain ⟨fields', rfl⟩ := exists_obj_of_at?_cons hsecond
  rw [at?_obj_key] at hfirst hsecond
  apply alike_obj
  intro keyword
  by_cases hkeyword : keyword = "properties"
  · subst keyword
    rw [hfirst, hsecond]
    apply alike_obj
    intro key
    have hkey := hchildren key
    rw [at?_obj_cons, at?_obj_cons, hfirst, hsecond, Option.bind_some, Option.bind_some,
      at?_obj_key, at?_obj_key] at hkey
    exact hkey
  · rw [← at?_obj_key, ← at?_obj_key, hkeywords keyword hkeyword]
    exact Alike.refl _

theorem sketchedKeyword_eq (h : ∀ value, node.at? ["additionalProperties"] = some value →
    value = .bool true) (key : String) : sketchedKeyword node key = node.at? [key] := by
  rw [sketchedKeyword]
  split
  · subst key
    cases hvalue : node.at? ["additionalProperties"] with
    | none => rfl
    | some value =>
        rw [h value hvalue]
        rfl
  · rfl

theorem Renders.alike_part (hout : Outline.Outlines paths (.part below))
    (h : Renders communitySchema (.part below) (some node) (some element))
    (hexist : Exist paths node) (hsketched : SketchedWhole paths node [])
    (hfull : ∀ key child, node.at? ["properties", key] = some child → below key ≠ .absent →
      Alike (element.at? ["properties", key]) (some child)) :
    Alike (some element) (some node) := by
  obtain ⟨⟨first, rest, hmem⟩, hpaths⟩ := hout
  obtain ⟨hkeywords, ⟨properties, hproperties⟩, hbelow⟩ := renders_part_iff.mp h
  obtain ⟨others, hothers⟩ := hexist.hasProperties hmem
  obtain ⟨hadditional, hnamed⟩ := hsketched node rfl
  refine alike_of_properties hproperties hothers ?_ ?_
  · intro keyword hkeyword
    rw [hkeywords keyword hkeyword, sketchedKeyword_eq hadditional]
  · intro key
    cases hchild : node.at? ["properties", key] with
    | some child =>
        apply hfull key child hchild
        rw [← (hpaths key).nonempty_iff]
        obtain ⟨other, hother, rest, rfl⟩ := hnamed key (Option.isSome_of_eq_some hchild)
        exact ⟨rest, hother⟩
    | none =>
        have habsent : below key = .absent := by
          by_contra hne
          obtain ⟨rest, hrest⟩ := (hpaths key).nonempty_iff.mpr hne
          obtain ⟨child, hsome⟩ := hexist.exists_child hrest
          cases hchild.symm.trans hsome
        have hrendered := hbelow key
        rw [habsent] at hrendered
        rw [(hrendered : element.at? ["properties", key] = none)]
        exact Alike.refl _

theorem Renders.alike_of_keptWhole (hout : Outline.Outlines paths outline)
    (h : Renders communitySchema outline (some node) found) (hexist : Exist paths node)
    (hwhole : ∀ path ∈ paths, KeptWhole communitySchema paths node [] path)
    (hne : outline ≠ .absent) : Alike found (some node) := by
  induction outline generalizing paths node found with
  | absent => exact absurd rfl hne
  | whole =>
      obtain ⟨_, copied, hnode, rfl, -, hinlines⟩ := h
      cases hnode
      exact (hwhole [] hout).1 _ copied rfl hinlines
  | part below ih =>
      obtain ⟨_, element, -, rfl⟩ := h.exists_some hne
      obtain ⟨-, hbelow⟩ := renders_part_iff.mp h
      obtain ⟨first, rest, hmem⟩ := hout.1
      obtain ⟨only, honly⟩ := hexist.exists_child hmem
      have hsketched := ((keptWhole_nil_cons_iff honly).mp (hwhole _ hmem)).1
      refine Renders.alike_part hout h hexist hsketched ?_
      intro key child hchild hkey
      obtain ⟨childElement, helement, hrenders⟩ := hbelow.exists_child hchild hkey
      rw [helement]
      refine ih key (hout.2 key) hrenders (hexist.below hchild) ?_ hkey
      intro path hpath
      exact ((keptWhole_nil_cons_iff hchild).mp (hwhole _ hpath)).2

theorem Renders.alike_at (hout : Outline.Outlines paths outline)
    (h : Renders communitySchema outline (some node) (some element)) (hexist : Exist paths node)
    (hoverlaps : OverlapsWhole communitySchema paths node) (hpath : path ∈ paths)
    (htarget : node.at? (nodePlace path) = some target)
    (hinlines : Inlines communitySchema target copied) :
    Alike (element.at? (nodePlace path)) (some copied) := by
  induction path generalizing paths outline node element with
  | nil =>
      cases htarget
      cases outline with
      | absent => cases h
      | whole => exact (renders_whole_iff.mp h).2.alike hinlines
      | part below =>
          -- The path came after a longer one, and the code left the sketch as it was.
          obtain ⟨first, rest, hmem⟩ := hout.1
          obtain ⟨only, honly⟩ := hexist.exists_child hmem
          obtain ⟨properties, hproperties⟩ := hexist.hasProperties hmem
          have hsketched :=
            ((keptWhole_nil_cons_iff honly).mp (hoverlaps.of_nil hpath hmem)).1
          rw [hinlines.eq_of_properties (by rw [hproperties]; simp)]
          refine Renders.alike_part hout h hexist hsketched ?_
          intro key child hchild hkey
          obtain ⟨childElement, helement, hrenders⟩ :=
            (renders_part_iff.mp h).2.exists_child hchild hkey
          rw [helement]
          refine Renders.alike_of_keptWhole (hout.2 key) hrenders (hexist.below hchild) ?_ hkey
          intro path hbelowPath
          exact ((keptWhole_nil_cons_iff hchild).mp (hoverlaps.of_nil hpath hbelowPath)).2
  | cons key rest ih =>
      obtain ⟨child, hchild⟩ := hexist.exists_child hpath
      cases outline with
      | absent => cases h
      | whole =>
          -- A shorter path came first: this one is inside its copy.
          have hsame := (renders_whole_iff.mp h).2
          obtain ⟨properties, hproperties⟩ := hexist.hasProperties hpath
          rw [hsame.eq_of_properties (by rw [hproperties]; simp), htarget]
          exact ((hoverlaps.of_nil hout hpath).1 target copied htarget hinlines).symm
      | part below =>
          obtain ⟨childElement, helement, hrenders⟩ := (renders_part_iff.mp h).2.exists_child hchild
            ((hout.2 key).nonempty_iff.mp ⟨rest, hpath⟩)
          rw [at?_nodePlace_of_child helement]
          rw [at?_nodePlace_of_child hchild] at htarget
          exact ih (hout.2 key) hrenders (hexist.below hchild) (hoverlaps.below hchild) hpath
            htarget

/-- Nothing is found but what leads to a kept path, or is in the copy of one. -/
theorem Renders.resolves (hout : Outline.Outlines paths outline)
    (h : Renders communitySchema outline original (some element))
    (hpath : (element.at? (nodePlace path)).isSome = true) :
    (∃ kept ∈ paths, path <+: kept) ∨
    ∃ kept ∈ paths, ∃ rest node target copied, path = kept ++ rest ∧ original = some node ∧
      node.at? (nodePlace kept) = some target ∧ Inlines communitySchema target copied ∧
      (copied.at? (nodePlace rest)).isSome = true := by
  induction path generalizing paths outline original element with
  | nil =>
      obtain ⟨kept, hkept⟩ := hout.nonempty_iff.mpr h.ne_absent
      exact .inl ⟨kept, hkept, List.nil_prefix⟩
  | cons key path ih =>
      cases outline with
      | absent => cases h
      | whole =>
          obtain ⟨node, _, rfl, helement, -, hinlines⟩ := h
          cases helement
          exact .inr ⟨[], hout, key :: path, node, node, element, rfl, rfl, rfl, hinlines, hpath⟩
      | part below =>
          obtain ⟨node, _, rfl, helement, -, -, hbelow⟩ := h
          cases helement
          rw [at?_nodePlace_cons] at hpath
          obtain ⟨child, hchild⟩ := Option.isSome_iff_exists.mp (Option.isSome_of_isSome_bind hpath)
          rw [hchild, Option.bind_some] at hpath
          have hkey := hbelow key
          rw [hchild] at hkey
          rcases ih (hout.2 key) hkey hpath with
            ⟨kept, hkept, hprefix⟩ |
            ⟨kept, hkept, rest, child', target, copied, rfl, hchild', htarget, hinlines, hrest⟩
          · exact .inl ⟨key :: kept, hkept, List.cons_prefix_cons.mpr ⟨rfl, hprefix⟩⟩
          · refine .inr ⟨key :: kept, hkept, rest, node, target, copied, rfl, rfl, ?_, hinlines,
              hrest⟩
            rw [at?_nodePlace_of_child hchild']
            exact htarget

theorem Renders.exists_copied (hout : Outline.Outlines paths outline)
    (h : Renders communitySchema outline (some node) found) (hexist : Exist paths node)
    (hnil : [] ∈ paths) : ∃ copied, Inlines communitySchema node copied := by
  cases outline with
  | absent => exact absurd hnil (by rw [(hout : paths = ∅)]; simp)
  | whole =>
      obtain ⟨_, copied, hnode, -, -, hinlines⟩ := h
      cases hnode
      exact ⟨copied, hinlines⟩
  | part below =>
      obtain ⟨key, rest, hmem⟩ := hout.1
      obtain ⟨properties, hproperties⟩ := hexist.hasProperties hmem
      exact ⟨node, .whole (.inr (by rw [hproperties]; simp))⟩

theorem alike_of_nil_mem {outline' : Outline String} {element' : Json}
    (hout : Outline.Outlines paths outline) (hout' : Outline.Outlines paths outline')
    (h : Renders communitySchema outline (some node) (some element))
    (h' : Renders communitySchema outline' (some node) (some element'))
    (hexist : Exist paths node) (hoverlaps : OverlapsWhole communitySchema paths node)
    (hnil : [] ∈ paths) : Alike (some element) (some element') := by
  obtain ⟨copied, hcopied⟩ := h.exists_copied hout hexist hnil
  have hfirst := h.alike_at hout hexist hoverlaps hnil rfl hcopied
  have hsecond := h'.alike_at hout' hexist hoverlaps hnil rfl hcopied
  exact hfirst.trans hsecond.symm

theorem Renders.alike {outline' : Outline String} {found' : Option Json}
    (hout : Outline.Outlines paths outline) (hout' : Outline.Outlines paths outline')
    (h : Renders communitySchema outline original found)
    (h' : Renders communitySchema outline' original found')
    (hexist : ∀ node, original = some node → Exist paths node)
    (hoverlaps : ∀ node, original = some node → OverlapsWhole communitySchema paths node) :
    Alike found found' := by
  induction outline generalizing paths original found outline' found' with
  | absent =>
      cases (hout : paths = ∅)
      cases Outline.outlines_empty_iff.mp hout'
      cases (h : found = none)
      cases (h' : found' = none)
      exact Alike.refl _
  | whole =>
      obtain ⟨node, element, rfl, rfl⟩ := h.exists_some (hout.nonempty_iff.mp ⟨_, hout⟩)
      obtain ⟨_, element', -, rfl⟩ := h'.exists_some (hout'.nonempty_iff.mp ⟨_, hout⟩)
      exact alike_of_nil_mem hout hout' h h' (hexist _ rfl) (hoverlaps _ rfl) hout
  | part below ih =>
      obtain ⟨first, rest, hmem⟩ := hout.1
      obtain ⟨_, element', -, rfl⟩ := h'.exists_some (hout'.nonempty_iff.mp ⟨_, hmem⟩)
      by_cases hnil : [] ∈ paths
      · obtain ⟨node, element, rfl, rfl⟩ := h.exists_some (hout.nonempty_iff.mp ⟨_, hmem⟩)
        exact alike_of_nil_mem hout hout' h h' (hexist _ rfl) (hoverlaps _ rfl) hnil
      · cases outline' with
        | absent => cases h'
        | whole => exact absurd hout' hnil
        | part below' =>
            obtain ⟨node, element, rfl, rfl⟩ := h.exists_some (by simp)
            obtain ⟨hkeywords, ⟨_, hproperties⟩, hbelow⟩ := renders_part_iff.mp h
            obtain ⟨hkeywords', ⟨_, hproperties'⟩, hbelow'⟩ := renders_part_iff.mp h'
            refine alike_of_properties hproperties hproperties' ?_ ?_
            · intro keyword hkeyword
              rw [hkeywords keyword hkeyword, hkeywords' keyword hkeyword]
            · intro key
              exact ih key (hout.2 key) (hout'.2 key) (hbelow key) (hbelow' key)
                (fun child hchild => (hexist node rfl).below hchild)
                (fun child hchild => (hoverlaps node rfl).below hchild)

theorem Renders.copyable (h : Renders communitySchema outline (some node) found)
    (hreaches : Outline.Reaches path outline) (htarget : node.at? (nodePlace path) = some target) :
    Copyable communitySchema target := by
  induction path generalizing outline node found with
  | nil =>
      cases (hreaches : outline = .whole)
      cases htarget
      obtain ⟨_, _, hnode, -, hcopyable, -⟩ := h
      cases hnode
      exact hcopyable
  | cons key rest ih =>
      obtain ⟨below, rfl, hreaches⟩ := hreaches
      obtain ⟨_, element, hnode, -, -, -, hbelow⟩ := h
      cases hnode
      rw [at?_nodePlace_cons] at htarget
      obtain ⟨child, hchild, htarget⟩ := Option.bind_eq_some_iff.mp htarget
      have hkey := hbelow key
      rw [hchild] at hkey
      exact ih hkey hreaches htarget

theorem Renders.keptWhole_nil (hout : Outline.Outlines paths outline)
    (h : Renders communitySchema outline (some node) (some element)) (hexist : Exist paths node)
    (hreaches : Outline.Reaches path outline) (hpath : path ∈ paths)
    (halike : Alike (some element) (some node)) :
    KeptWhole communitySchema paths node [] path := by
  induction path generalizing paths outline node element with
  | nil =>
      cases (hreaches : outline = .whole)
      have hinlines := (renders_whole_iff.mp h).2
      refine ⟨?_, fun between _ hprefix hne => absurd (List.prefix_nil.mp hprefix) hne⟩
      intro target copied htarget hcopied
      cases htarget
      exact (hcopied.alike hinlines).trans halike
  | cons key rest ih =>
      obtain ⟨below, rfl, hreaches⟩ := hreaches
      obtain ⟨hkeywords, hbelow⟩ := renders_part_iff.mp h
      obtain ⟨child, hchild⟩ := hexist.exists_child hpath
      obtain ⟨childElement, helement, hrenders⟩ := hbelow.exists_child hchild hreaches.ne_absent
      have hchildren := halike.at? ["properties", key]
      rw [hchild, helement] at hchildren
      rw [keptWhole_nil_cons_iff hchild]
      refine ⟨?_, ih (hout.2 key) hrenders (hexist.below hchild) hreaches hpath hchildren⟩
      rintro _ ⟨⟩
      constructor
      · intro value hvalue
        have hadditional := halike.at? ["additionalProperties"]
        rw [hkeywords _ (by decide), sketchedKeyword, if_pos rfl, hvalue, Option.map_some]
          at hadditional
        cases hadditional.eq_of_not_obj (by simp)
        rfl
      · intro name hname
        have hsome := (halike.at? ["properties", name]).isSome_eq
        rw [hname] at hsome
        have hrendered := hbelow.2 name
        obtain ⟨found, hfound⟩ := Option.isSome_iff_exists.mp hsome.symm
        rw [hfound] at hrendered
        obtain ⟨rest, hrest⟩ := (hout.2 name).nonempty_iff.mpr hrendered.ne_absent
        exact ⟨name :: rest, hrest, by simp⟩

theorem Renders.keptWhole (hout : Outline.Outlines paths outline)
    (h : Renders communitySchema outline (some node) (some element)) (hexist : Exist paths node)
    (hreaches : Outline.Reaches (path ++ rest) outline) (hpath : path ++ rest ∈ paths)
    (halike : Alike (element.at? (nodePlace path)) (node.at? (nodePlace path))) :
    KeptWhole communitySchema paths node path (path ++ rest) := by
  induction path generalizing paths outline node element with
  | nil => exact h.keptWhole_nil hout hexist hreaches hpath halike
  | cons key path ih =>
      obtain ⟨below, rfl, hreaches⟩ := hreaches
      obtain ⟨child, hchild⟩ := hexist.exists_child hpath
      obtain ⟨childElement, helement, hrenders⟩ :=
        (renders_part_iff.mp h).2.exists_child hchild hreaches.ne_absent
      rw [at?_nodePlace_of_child hchild, at?_nodePlace_of_child helement] at halike
      rw [List.cons_append, keptWhole_cons_iff hchild]
      exact ih (hout.2 key) hrenders (hexist.below hchild) hreaches hpath halike

end Rendered

end QubershipAirflow.Schema
