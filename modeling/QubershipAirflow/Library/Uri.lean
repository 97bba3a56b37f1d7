import Mathlib.Data.List.TakeWhile
import QubershipAirflow.Library.PercentDecoding

/-! Generic URIs: the split into components, what a consumer reads from them, and when
a text that was put together from raw parts is read back as these parts. A component
that is cut short cannot decode to the whole part, so each part survives exactly when
it holds neither a delimiter of its place nor an escape. -/
namespace Uri

section Components

/-- `text` up to the first `c`, and what follows it. -/
def partition (c : Char) (text : List Char) : Option (List Char × List Char) :=
  match text.dropWhile (· ≠ c) with
  | _ :: after => some (text.takeWhile (· ≠ c), after)
  | [] => none

/-- `text` up to the last `c`, and what follows it. -/
def rpartition (c : Char) (text : List Char) : Option (List Char × List Char) :=
  (partition c text.reverse).map fun halves => (halves.2.reverse, halves.1.reverse)

theorem partition_append {c : Char} {before after : List Char} (h : c ∉ before) :
    partition c (before ++ c :: after) = some (before, after) := by
  have hbefore : ∀ x ∈ before, decide (x ≠ c) = true := by
    intro x hmem
    simp only [decide_eq_true_eq]
    rintro rfl
    exact h hmem
  unfold partition
  rw [List.dropWhile_append_of_pos hbefore, List.takeWhile_append_of_pos hbefore]
  simp

theorem partition_some {c : Char} {text before after : List Char}
    (h : partition c text = some (before, after)) : text = before ++ c :: after ∧ c ∉ before := by
  by_cases hmem : c ∈ text
  · obtain ⟨first, second, rfl, hfirst⟩ := List.eq_append_cons_of_mem hmem
    rw [partition_append hfirst] at h
    cases h
    exact ⟨rfl, hfirst⟩
  · have hall : ∀ x ∈ text, decide (x ≠ c) = true := by
      intro x hx
      simp only [decide_eq_true_eq]
      rintro rfl
      exact hmem hx
    unfold partition at h
    rw [List.dropWhile_eq_nil_iff.mpr hall] at h
    simp at h

theorem rpartition_append {c : Char} {before after : List Char} (h : c ∉ after) :
    rpartition c (before ++ c :: after) = some (before, after) := by
  have hreverse : (before ++ c :: after).reverse = after.reverse ++ c :: before.reverse := by simp
  rw [rpartition, hreverse, partition_append (by simpa using h)]
  simp

theorem rpartition_some {c : Char} {text before after : List Char}
    (h : rpartition c text = some (before, after)) : text = before ++ c :: after := by
  obtain ⟨⟨first, second⟩, hpartition, heq⟩ := Option.map_eq_some_iff.mp h
  cases heq
  have htext := congrArg List.reverse (partition_some hpartition).1
  simpa using htext

/-- The components by the expression of RFC 3986, appendix B. -/
structure Components where
  scheme : Option (List Char)
  authority : Option (List Char)
  path : List Char
  query : Option (List Char)
  fragment : Option (List Char)
  deriving DecidableEq, Repr

def outside (stops : List Char) (c : Char) : Bool := c ∉ stops

def splitFragment : List Char → Option (List Char)
  | '#' :: rest => some rest
  | _ => none

def splitQuery (scheme authority : Option (List Char)) (path : List Char) :
    List Char → Components
  | '?' :: rest => ⟨scheme, authority, path, some (rest.takeWhile (outside ['#'])),
      splitFragment (rest.dropWhile (outside ['#']))⟩
  | rest => ⟨scheme, authority, path, none, splitFragment rest⟩

def splitPath (scheme authority : Option (List Char)) (text : List Char) : Components :=
  splitQuery scheme authority (text.takeWhile (outside ['?', '#']))
    (text.dropWhile (outside ['?', '#']))

def splitAuthority (scheme : Option (List Char)) : List Char → Components
  | '/' :: '/' :: rest => splitPath scheme (some (rest.takeWhile (outside ['/', '?', '#'])))
      (rest.dropWhile (outside ['/', '?', '#']))
  | rest => splitPath scheme none rest

def split (uri : List Char) : Components :=
  match uri.takeWhile (outside [':', '/', '?', '#']),
      uri.dropWhile (outside [':', '/', '?', '#']) with
  | c :: scheme, ':' :: rest => splitAuthority (some (c :: scheme)) rest
  | _, _ => splitAuthority none uri

theorem length_takeWhile_lt {stops first : List Char} (h : ∃ c ∈ first, c ∈ stops)
    (second : List Char) :
    (octets ((first ++ second).takeWhile (outside stops))).length < (octets first).length := by
  obtain ⟨c, hmem, hstop⟩ := h
  have hrest : first.dropWhile (outside stops) ≠ [] := by
    intro hnil
    simpa [outside, hstop] using List.dropWhile_eq_nil_iff.mp hnil c hmem
  have hwhole : first.takeWhile (outside stops) ++ first.dropWhile (outside stops) = first :=
    List.takeWhile_append_dropWhile
  have hcut : (first ++ second).takeWhile (outside stops) = first.takeWhile (outside stops) := by
    rw [List.takeWhile_append, if_neg]
    intro hlength
    have hsum := congrArg List.length hwhole
    rw [List.length_append, hlength] at hsum
    exact hrest (List.length_eq_zero_iff.mp (by omega))
  calc (octets ((first ++ second).takeWhile (outside stops))).length
      = (octets (first.takeWhile (outside stops))).length := by rw [hcut]
    _ < (octets (first.takeWhile (outside stops) ++ first.dropWhile (outside stops))).length :=
        length_octets_take_lt hrest
    _ = (octets first).length := by rw [hwhole]

theorem takeWhile_clean {stops first : List Char} (h : ∀ c ∈ first, c ∉ stops) {stop : Char}
    (hstop : stop ∈ stops) (second : List Char) :
    (first ++ stop :: second).takeWhile (outside stops) = first ∧
      (first ++ stop :: second).dropWhile (outside stops) = stop :: second := by
  have hall : ∀ c ∈ first, outside stops c = true := by simpa [outside] using h
  rw [List.takeWhile_append_of_pos hall, List.dropWhile_append_of_pos hall]
  simp [outside, hstop]

theorem takeWhile_whole {stops text : List Char} (h : ∀ c ∈ text, c ∉ stops) :
    text.takeWhile (outside stops) = text ∧ text.dropWhile (outside stops) = [] := by
  have hall : ∀ c ∈ text, outside stops c = true := by simpa [outside] using h
  exact ⟨List.takeWhile_eq_self_iff.mpr hall, List.dropWhile_eq_nil_iff.mpr hall⟩

theorem split_scheme {c : Char} {scheme : List Char}
    (hclean : ∀ x ∈ c :: scheme, x ∉ [':', '/', '?', '#']) (rest : List Char) :
    split (c :: scheme ++ ':' :: rest) = splitAuthority (some (c :: scheme)) rest := by
  obtain ⟨htake, hdrop⟩ := takeWhile_clean hclean (by simp : ':' ∈ [':', '/', '?', '#']) rest
  rw [split, htake, hdrop]
  rfl

end Components

section Reading

/-- Where the generic syntax leaves a choice to its consumers: which `@` ends the
user information of a text that has several, and whether `+` in a query is a blank. -/
structure Consumer where
  atFirst : Bool
  plusIsSpace : Bool

/-- The octets that a consumer gets for each part. -/
structure Reading where
  user : List UInt8
  password : List UInt8
  host : List UInt8
  port : List UInt8
  database : List UInt8
  certificate : Option (List UInt8)
  deriving DecidableEq

def Consumer.cutUserinfo (consumer : Consumer) (authority : List Char) :
    Option (List Char × List Char) :=
  if consumer.atFirst then partition '@' authority else rpartition '@' authority

def Consumer.decodeQuery (consumer : Consumer) (value : List Char) : List UInt8 :=
  percentDecode (if consumer.plusIsSpace then plusToSpace value else value)

def Consumer.param (consumer : Consumer) (name query : List Char) : Option (List UInt8) :=
  (((query.splitOn '&').filterMap (partition '=')).lookup name).map consumer.decodeQuery

def Consumer.readAuthority (consumer : Consumer) (authority : List Char) :
    Option (List UInt8 × List UInt8 × List UInt8 × List UInt8) := do
  let (userinfo, address) ← consumer.cutUserinfo authority
  let (user, password) ← partition ':' userinfo
  let (host, port) ← rpartition ':' address
  return (percentDecode user, percentDecode password, percentDecode host, octets port)

/-- A database URI, whose path is the database name. -/
def Consumer.readComponents (consumer : Consumer) (certificateParam : List Char)
    (parts : Components) : Option Reading := do
  let (user, password, host, port) ← consumer.readAuthority (← parts.authority)
  match parts.path with
  | '/' :: database => some {
      user, password, host, port
      database := percentDecode database
      certificate := parts.query.bind (consumer.param certificateParam) }
  | _ => none

def Consumer.read (consumer : Consumer) (certificateParam uri : List Char) : Option Reading :=
  consumer.readComponents certificateParam (split uri)

structure Query where
  name : List Char
  value : List Char
  certificate : Option (List Char)

/-- The raw parts that a URI is put together from, none of them encoded. -/
structure Raw where
  user : List Char
  password : List Char
  host : List Char
  port : List Char
  database : List Char
  query : Option Query

def Query.text (query : Query) (certificateParam : List Char) : List Char :=
  query.name ++ '=' :: query.value ++
    match query.certificate with
    | some certificate => '&' :: certificateParam ++ '=' :: certificate
    | none => []

def Raw.authority (raw : Raw) : List Char :=
  raw.user ++ ':' :: raw.password ++ '@' :: raw.host ++ ':' :: raw.port

def Raw.tail (raw : Raw) (certificateParam : List Char) : List Char :=
  match raw.query with
  | some query => '?' :: query.text certificateParam
  | none => []

def Raw.compose (raw : Raw) (scheme certificateParam : List Char) : List Char :=
  scheme ++ ':' :: '/' :: '/' :: raw.authority ++ '/' :: raw.database ++
    raw.tail certificateParam

def Raw.reading (raw : Raw) : Reading where
  user := octets raw.user
  password := octets raw.password
  host := octets raw.host
  port := octets raw.port
  database := octets raw.database
  certificate := (raw.query.bind Query.certificate).map octets

/-- The raw part comes through: it holds no delimiter of its place and no escape. -/
def Survives (stops text : List Char) : Prop :=
  (∀ c ∈ text, c ∉ stops) ∧ hasEscape text = false

instance (stops text : List Char) : Decidable (Survives stops text) :=
  inferInstanceAs (Decidable (_ ∧ _))

end Reading

section Authority

variable {consumer : Consumer} {raw : Raw}

theorem cutUserinfo_some {authority userinfo address : List Char}
    (h : consumer.cutUserinfo authority = some (userinfo, address)) :
    authority = userinfo ++ '@' :: address := by
  unfold Consumer.cutUserinfo at h
  split_ifs at h
  · exact (partition_some h).1
  · exact rpartition_some h

theorem length_readAuthority {authority : List Char} {user password host port : List UInt8}
    (h : consumer.readAuthority authority = some (user, password, host, port)) :
    user.length + password.length + host.length + port.length + 3 ≤
      (octets authority).length := by
  simp only [Consumer.readAuthority, Option.bind_eq_bind, Option.bind_eq_some_iff, Option.pure_def,
    Option.some.injEq, Prod.exists, Prod.mk.injEq] at h
  obtain ⟨userinfo, address, hcut, rawUser, rawPassword, huser, rawHost, rawPort, hhost,
    rfl, rfl, rfl, rfl⟩ := h
  rw [cutUserinfo_some hcut, (partition_some huser).1, rpartition_some hhost]
  have h₁ := length_percentDecode_le rawUser
  have h₂ := length_percentDecode_le rawPassword
  have h₃ := length_percentDecode_le rawHost
  have hcolon : (String.utf8EncodeChar ':').length = 1 := by decide
  have hat : (String.utf8EncodeChar '@').length = 1 := by decide
  simp only [octets_append, octets_cons, List.length_append, hcolon, hat]
  omega

def Consumer.userinfoStops (consumer : Consumer) : List Char :=
  if consumer.atFirst then ['/', '?', '#', '@'] else ['/', '?', '#']

theorem cutUserinfo_append {userinfo address : List Char} (haddress : '@' ∉ address)
    (huserinfo : consumer.atFirst = true → '@' ∉ userinfo) :
    consumer.cutUserinfo (userinfo ++ '@' :: address) = some (userinfo, address) := by
  unfold Consumer.cutUserinfo
  split_ifs with hfirst
  · exact partition_append (huserinfo hfirst)
  · exact rpartition_append haddress

theorem cutUserinfo_short {userinfo address first second : List Char}
    (hfirst : consumer.atFirst = true) (hmem : '@' ∈ userinfo)
    (h : consumer.cutUserinfo (userinfo ++ '@' :: address) = some (first, second)) :
    (octets first).length < (octets userinfo).length := by
  obtain ⟨before, after, rfl, hbefore⟩ := List.eq_append_cons_of_mem hmem
  rw [Consumer.cutUserinfo, if_pos hfirst, List.append_assoc, List.cons_append,
    partition_append hbefore] at h
  cases h
  exact length_octets_take_lt (by simp)

theorem length_partition {c : Char} {text first second : List Char}
    (hc : (String.utf8EncodeChar c).length = 1) (h : partition c text = some (first, second)) :
    (percentDecode first).length + (percentDecode second).length + 1 ≤ (octets text).length := by
  have hfirst := length_percentDecode_le first
  have hsecond := length_percentDecode_le second
  rw [(partition_some h).1, octets_append, octets_cons, List.length_append, List.length_append, hc]
  omega

theorem readAuthority_ne (haddress : '@' ∉ raw.host ++ ':' :: raw.port)
    (hplain : ¬ (':' ∉ raw.user ∧
      (consumer.atFirst = true → '@' ∉ raw.user ++ ':' :: raw.password)))
    (host port : List UInt8) :
    consumer.readAuthority raw.authority ≠
      some (octets raw.user, octets raw.password, host, port) := by
  intro h
  simp only [Consumer.readAuthority, Option.bind_eq_bind, Option.bind_eq_some_iff, Option.pure_def,
    Option.some.injEq, Prod.exists, Prod.mk.injEq] at h
  obtain ⟨userinfo, address, hcut, user, password, huserinfo, rawHost, rawPort, -,
    huser, hpassword, -⟩ := h
  have hcolon : (String.utf8EncodeChar ':').length = 1 := by decide
  have hauthority : raw.authority =
      (raw.user ++ ':' :: raw.password) ++ '@' :: (raw.host ++ ':' :: raw.port) := by
    simp [Raw.authority]
  rw [hauthority] at hcut
  by_cases hat : consumer.atFirst = true → '@' ∉ raw.user ++ ':' :: raw.password
  · -- the first `:` is in the user name
    rw [cutUserinfo_append haddress hat] at hcut
    cases hcut
    have hmem : ':' ∈ raw.user := by_contra fun hmem => hplain ⟨hmem, hat⟩
    obtain ⟨before, after, hraw, hbefore⟩ := List.eq_append_cons_of_mem hmem
    rw [hraw, List.append_assoc, List.cons_append, partition_append hbefore] at huserinfo
    cases huserinfo
    have hle := length_percentDecode_le user
    have hlt : (octets user).length < (octets (user ++ ':' :: after)).length :=
      length_octets_take_lt (by simp)
    rw [huser, hraw] at hle
    omega
  · push Not at hat
    have hlt := cutUserinfo_short hat.1 hat.2 hcut
    have hle := length_partition hcolon huserinfo
    rw [huser, hpassword] at hle
    simp only [octets_append, octets_cons, List.length_append, hcolon] at hlt
    omega

/-- The whole authority is read back up to delimiters within the user information. -/
theorem readAuthority_eq_iff (hhost : ∀ c ∈ raw.host, c ∉ ['@', ':'])
    (hport : ∀ c ∈ raw.port, c ∉ ['@', ':']) :
    consumer.readAuthority raw.authority =
        some (octets raw.user, octets raw.password, octets raw.host, octets raw.port) ↔
      (':' ∉ raw.user ∧ (consumer.atFirst = true → '@' ∉ raw.user ++ ':' :: raw.password)) ∧
        hasEscape raw.user = false ∧ hasEscape raw.password = false ∧
        hasEscape raw.host = false := by
  have haddress : '@' ∉ raw.host ++ ':' :: raw.port := by
    intro hmem
    simp only [List.mem_append, List.mem_cons, Char.reduceEq, false_or] at hmem
    rcases hmem with hmem | hmem
    · simpa using hhost _ hmem
    · simpa using hport _ hmem
  by_cases hplain :
      ':' ∉ raw.user ∧ (consumer.atFirst = true → '@' ∉ raw.user ++ ':' :: raw.password)
  · have hcolon : ':' ∉ raw.port := fun hmem => by simpa using hport _ hmem
    have hread : consumer.readAuthority raw.authority = some (percentDecode raw.user,
        percentDecode raw.password, percentDecode raw.host, octets raw.port) := by
      have hauthority : raw.authority =
          (raw.user ++ ':' :: raw.password) ++ '@' :: (raw.host ++ ':' :: raw.port) := by
        simp [Raw.authority]
      rw [Consumer.readAuthority, hauthority, cutUserinfo_append haddress hplain.2]
      simp [partition_append hplain.1, rpartition_append hcolon]
    simp only [hread, Option.some.injEq, Prod.mk.injEq, percentDecode_eq_octets_iff, and_true]
    exact ⟨fun h => ⟨hplain, h⟩, And.right⟩
  · simp only [hplain, false_and, iff_false]
    exact readAuthority_ne haddress hplain _ _

end Authority

section Queries

variable {consumer : Consumer}

theorem length_decodeQuery_le (value : List Char) :
    (consumer.decodeQuery value).length ≤ (octets value).length := by
  unfold Consumer.decodeQuery
  split_ifs
  · rw [← length_octets_plusToSpace]
    exact length_percentDecode_le _
  · exact length_percentDecode_le _

def Consumer.queryStops (consumer : Consumer) : List Char :=
  if consumer.plusIsSpace then ['#', '&', '+'] else ['#', '&']

theorem outside_takeWhile_outside (first second text : List Char) :
    (text.takeWhile (outside first)).takeWhile (outside second) =
      text.takeWhile (outside (first ++ second)) := by
  rw [List.takeWhile_takeWhile]
  congr 1
  funext c
  simp [outside, Bool.and_comm]

theorem not_mem_singleton {c : Char} {text : List Char} (h : c ∉ text) :
    ∀ x ∈ text, x ∉ [c] := by
  rintro x hx hc
  exact h (List.mem_singleton.mp hc ▸ hx)

theorem splitOn_cons (c : Char) (text : List Char) :
    ∃ fields, text.splitOn c = text.takeWhile (outside [c]) :: fields := by
  by_cases hmem : c ∈ text
  · obtain ⟨before, after, rfl, hbefore⟩ := List.eq_append_cons_of_mem hmem
    rw [(takeWhile_clean (not_mem_singleton hbefore) (List.mem_singleton_self c) after).1,
      List.splitOn_append_cons_self_of_not_mem hbefore]
    exact ⟨_, rfl⟩
  · rw [(takeWhile_whole (not_mem_singleton hmem)).1, List.splitOn_eq_singleton hmem]
    exact ⟨_, rfl⟩

theorem takeWhile_stopped {stops first : List Char} (h : ∀ c ∈ first, c ∉ stops)
    (second : List Char) :
    (first ++ second).takeWhile (outside stops) = first ++ second.takeWhile (outside stops) :=
  List.takeWhile_append_of_pos (by simpa [outside] using h)

structure Query.Plain (query : Query) (certificateParam : List Char) : Prop where
  name : '#' ∉ query.name ∧ '&' ∉ query.name ∧ '=' ∉ query.name
  value : '#' ∉ query.value ∧ '&' ∉ query.value
  param : '#' ∉ certificateParam ∧ '&' ∉ certificateParam ∧ '=' ∉ certificateParam
  differ : query.name ≠ certificateParam

theorem Query.Plain.head {query : Query} {certificateParam : List Char}
    (hplain : query.Plain certificateParam) :
    (∀ c ∈ query.name ++ '=' :: query.value, c ∉ ['#']) ∧
      '&' ∉ query.name ++ '=' :: query.value := by
  obtain ⟨hname, hvalue, -, -⟩ := hplain
  exact ⟨not_mem_singleton (by simp [hname, hvalue]), by simp [hname, hvalue]⟩

theorem Query.Plain.tail {query : Query} {certificateParam : List Char}
    (hplain : query.Plain certificateParam) :
    (∀ c ∈ certificateParam ++ ['='], c ∉ ['#']) ∧
      ∀ c ∈ certificateParam ++ ['='], c ∉ ['&'] :=
  ⟨not_mem_singleton (by simp [hplain.param]), not_mem_singleton (by simp [hplain.param])⟩

theorem param_certificate {query : Query} {certificateParam certificate : List Char}
    (hplain : query.Plain certificateParam) (hquery : query.certificate = some certificate) :
    consumer.param certificateParam
        ((query.text certificateParam).takeWhile (outside ['#'])) =
      some (consumer.decodeQuery (certificate.takeWhile (outside ['#', '&']))) := by
  obtain ⟨hfragment, hamp⟩ := hplain.head
  obtain ⟨hfragment', hamp'⟩ := hplain.tail
  have htext : query.text certificateParam = (query.name ++ '=' :: query.value) ++
      (['&'] ++ ((certificateParam ++ ['=']) ++ certificate)) := by
    simp [Query.text, hquery]
  obtain ⟨fields, hfields⟩ := splitOn_cons '&'
    ((certificateParam ++ ['=']) ++ certificate.takeWhile (outside ['#']))
  rw [takeWhile_stopped hamp', outside_takeWhile_outside] at hfields
  rw [htext, takeWhile_stopped hfragment, takeWhile_stopped (by simp), takeWhile_stopped hfragment',
    Consumer.param, List.singleton_append,
    List.splitOn_append_cons_self_of_not_mem hamp, hfields]
  have hother : (certificateParam == query.name) = false := by simpa using hplain.differ.symm
  simp [partition_append hplain.name.2.2, partition_append hplain.param.2.2,
    List.lookup_cons, hother]

theorem param_none {query : Query} {certificateParam : List Char}
    (hplain : query.Plain certificateParam) (hquery : query.certificate = none) :
    consumer.param certificateParam
        ((query.text certificateParam).takeWhile (outside ['#'])) = none := by
  obtain ⟨hfragment, hamp⟩ := hplain.head
  have htext : query.text certificateParam = query.name ++ '=' :: query.value := by
    simp [Query.text, hquery]
  have hother : (certificateParam == query.name) = false := by simpa using hplain.differ.symm
  rw [htext, (takeWhile_whole hfragment).1, Consumer.param,
    List.splitOn_eq_singleton hamp]
  simp [partition_append hplain.name.2.2, List.lookup_cons, hother]

theorem decodeQuery_eq_iff (certificate : List Char) :
    consumer.decodeQuery (certificate.takeWhile (outside ['#', '&'])) = octets certificate ↔
      Survives consumer.queryStops certificate := by
  by_cases hcut : ∃ c ∈ certificate, c ∈ ['#', '&']
  · have hshort := length_takeWhile_lt hcut []
    rw [List.append_nil] at hshort
    have hle : (consumer.decodeQuery (certificate.takeWhile (outside ['#', '&']))).length ≤
        (octets (certificate.takeWhile (outside ['#', '&']))).length := length_decodeQuery_le _
    constructor
    · intro h
      rw [h] at hle
      omega
    · rintro ⟨hclean, -⟩
      obtain ⟨c, hmem, hstop⟩ := hcut
      refine absurd ?_ (hclean c hmem)
      unfold Consumer.queryStops
      grind
  · push Not at hcut
    rw [(takeWhile_whole hcut).1, Consumer.decodeQuery, Survives, Consumer.queryStops]
    split_ifs with hplus
    · rw [percentDecode_plusToSpace_eq_octets_iff, and_comm]
      refine and_congr ⟨fun hmem c hc hstop => ?_, fun hclean hmem => ?_⟩ Iff.rfl
      · have hother := hcut c hc
        grind
      · exact hclean _ hmem (by simp)
    · rw [percentDecode_eq_octets_iff]
      exact ⟨fun hescape => ⟨hcut, hescape⟩, And.right⟩

end Queries

section Composition

variable {consumer : Consumer} {raw : Raw} {certificateParam : List Char}

theorem readComponents_eq_some_iff {parts : Components} {reading : Reading} :
    consumer.readComponents certificateParam parts = some reading ↔
      ∃ authority database, parts.authority = some authority ∧
        consumer.readAuthority authority =
          some (reading.user, reading.password, reading.host, reading.port) ∧
        parts.path = '/' :: database ∧ percentDecode database = reading.database ∧
        parts.query.bind (consumer.param certificateParam) = reading.certificate := by
  unfold Consumer.readComponents
  constructor
  · intro h
    simp only [Option.bind_eq_bind, Option.bind_eq_some_iff, Prod.exists] at h
    obtain ⟨authority, hauthority, user, password, host, port, hread, h⟩ := h
    split at h
    · rename_i database hpath
      cases h
      exact ⟨authority, database, hauthority, hread, hpath, rfl, rfl⟩
    · cases h
  · rintro ⟨authority, database, hauthority, hread, hpath, hdatabase, hcertificate⟩
    simp [hauthority, hread, hpath, hdatabase, hcertificate]

theorem splitQuery_parts (scheme authority : Option (List Char)) (path rest : List Char) :
    (splitQuery scheme authority path rest).authority = authority ∧
      (splitQuery scheme authority path rest).path = path := by
  unfold splitQuery
  split <;> exact ⟨rfl, rfl⟩

theorem splitPath_authority (scheme authority : Option (List Char)) (text : List Char) :
    (splitPath scheme authority text).authority = authority :=
  (splitQuery_parts _ _ _ _).1

theorem splitPath_slash (scheme authority : Option (List Char)) (text : List Char) :
    (splitPath scheme authority ('/' :: text)).path =
      '/' :: text.takeWhile (outside ['?', '#']) := by
  rw [splitPath, (splitQuery_parts _ _ _ _).2, List.takeWhile_cons_of_pos (by decide)]

theorem splitPath_query {scheme authority : Option (List Char)}
    (hdatabase : ∀ c ∈ raw.database, c ∉ ['?', '#']) :
    (splitPath scheme authority ('/' :: raw.database ++ raw.tail certificateParam)).path =
        '/' :: raw.database ∧
      (splitPath scheme authority ('/' :: raw.database ++ raw.tail certificateParam)).query =
        raw.query.map fun query =>
          (query.text certificateParam).takeWhile (outside ['#']) := by
  have hclean : ∀ c ∈ '/' :: raw.database, c ∉ ['?', '#'] := by
    intro c hmem
    rcases List.mem_cons.mp hmem with rfl | hmem
    · decide
    · exact hdatabase c hmem
  unfold splitPath Raw.tail
  cases raw.query with
  | none =>
    rw [List.append_nil, (takeWhile_whole hclean).1, (takeWhile_whole hclean).2]
    exact ⟨rfl, rfl⟩
  | some query =>
    obtain ⟨htake, hdrop⟩ := takeWhile_clean hclean (by simp : '?' ∈ ['?', '#'])
      (query.text certificateParam)
    rw [htake, hdrop]
    exact ⟨rfl, rfl⟩

theorem certificate_read_iff
    (hquery : ∀ query, raw.query = some query → query.Plain certificateParam) :
    (raw.query.map fun query => (query.text certificateParam).takeWhile (outside ['#'])).bind
        (consumer.param certificateParam) = raw.reading.certificate ↔
      ∀ certificate, raw.query.bind Query.certificate = some certificate →
        Survives consumer.queryStops certificate := by
  unfold Raw.reading
  cases hraw : raw.query with
  | none => simp
  | some query =>
    cases hcertificate : query.certificate with
    | none => simp [param_none (hquery query hraw) hcertificate, hcertificate]
    | some certificate =>
      simp [param_certificate (hquery query hraw) hcertificate, hcertificate, decodeQuery_eq_iff]

theorem length_authority (raw : Raw) : (octets raw.authority).length =
    (octets raw.user).length + (octets raw.password).length + (octets raw.host).length +
      (octets raw.port).length + 3 := by
  have hcolon : (String.utf8EncodeChar ':').length = 1 := by decide
  have hat : (String.utf8EncodeChar '@').length = 1 := by decide
  simp only [Raw.authority, octets_append, octets_cons, List.length_append, hcolon, hat]
  omega

/-- The components that are delimited before anything is decoded. -/
theorem readComponents_composed_iff (scheme : Option (List Char))
    (hhost : ∀ c ∈ raw.host, c ∉ ['@', ':']) (hport : ∀ c ∈ raw.port, c ∉ ['@', ':'])
    (hquery : ∀ query, raw.query = some query → query.Plain certificateParam) :
    consumer.readComponents certificateParam (splitPath scheme (some raw.authority)
        ('/' :: raw.database ++ raw.tail certificateParam)) = some raw.reading ↔
      ((':' ∉ raw.user ∧ (consumer.atFirst = true → '@' ∉ raw.user ++ ':' :: raw.password)) ∧
        hasEscape raw.user = false ∧ hasEscape raw.password = false ∧
        hasEscape raw.host = false) ∧ Survives ['?', '#'] raw.database ∧
      ∀ certificate, raw.query.bind Query.certificate = some certificate →
        Survives consumer.queryStops certificate := by
  rw [readComponents_eq_some_iff, splitPath_authority, ← readAuthority_eq_iff hhost hport,
    ← certificate_read_iff hquery]
  by_cases hdatabase : ∀ c ∈ raw.database, c ∉ ['?', '#']
  · obtain ⟨hwhole, hparams⟩ : _ ∧ (splitPath scheme (some raw.authority)
        ('/' :: raw.database ++ raw.tail certificateParam)).query = _ := splitPath_query hdatabase
    rw [hwhole, hparams, Survives, ← percentDecode_eq_octets_iff]
    constructor
    · rintro ⟨authority, database, hsame, hread, hslash, hdecoded, hcertificate⟩
      cases hsame
      cases hslash
      exact ⟨hread, ⟨hdatabase, hdecoded⟩, hcertificate⟩
    · rintro ⟨hread, ⟨-, hdecoded⟩, hcertificate⟩
      exact ⟨_, _, rfl, hread, rfl, hdecoded, hcertificate⟩
  · constructor
    · rintro ⟨authority, database, -, -, hslash, hdecoded, -⟩
      rw [List.cons_append, splitPath_slash] at hslash
      cases hslash
      push Not at hdatabase
      have hlt := length_takeWhile_lt hdatabase (raw.tail certificateParam)
      have hle := length_percentDecode_le
        ((raw.database ++ raw.tail certificateParam).takeWhile (outside ['?', '#']))
      rw [hdecoded] at hle
      exact absurd (lt_of_le_of_lt hle hlt) (lt_irrefl _)
    · rintro ⟨-, ⟨hclean, -⟩, -⟩
      exact absurd hclean hdatabase

theorem mem_userinfoStops {c : Char} : c ∈ consumer.userinfoStops ↔
    c ∈ ['/', '?', '#'] ∨ consumer.atFirst = true ∧ c = '@' := by
  unfold Consumer.userinfoStops
  split_ifs with hfirst <;> simp [hfirst]
  tauto

theorem userinfo_clean_iff (consumer : Consumer) (raw : Raw)
    (hhost : ∀ x ∈ raw.host, x ∉ ['/', '?', '#']) (hport : ∀ x ∈ raw.port, x ∉ ['/', '?', '#']) :
    ((∀ x ∈ raw.user, x ∉ ':' :: consumer.userinfoStops) ∧
        ∀ x ∈ raw.password, x ∉ consumer.userinfoStops) ↔
      (∀ x ∈ raw.authority, x ∉ ['/', '?', '#']) ∧ ':' ∉ raw.user ∧
        (consumer.atFirst = true → '@' ∉ raw.user ++ ':' :: raw.password) := by
  constructor
  · rintro ⟨huser, hpassword⟩
    refine ⟨fun x hmem hstop => ?_, fun hcolon => ?_, fun hfirst hat => ?_⟩
    · simp only [Raw.authority, List.mem_append, List.mem_cons] at hmem
      have huser' : x ∉ raw.user := fun hx =>
        huser x hx (List.mem_cons_of_mem _ (mem_userinfoStops.mpr (.inl hstop)))
      have hpassword' : x ∉ raw.password := fun hx =>
        hpassword x hx (mem_userinfoStops.mpr (.inl hstop))
      have hhost' : x ∉ raw.host := fun hx => hhost x hx hstop
      have hport' : x ∉ raw.port := fun hx => hport x hx hstop
      have hdelimiters : x ≠ ':' ∧ x ≠ '@' := by
        constructor <;> rintro rfl <;> simp at hstop
      simp_all
    · exact huser _ hcolon (by simp)
    · have hstop : '@' ∈ consumer.userinfoStops := mem_userinfoStops.mpr (.inr ⟨hfirst, rfl⟩)
      simp only [List.mem_append, List.mem_cons, Char.reduceEq, false_or] at hat
      rcases hat with hat | hat
      · exact huser _ hat (List.mem_cons_of_mem _ hstop)
      · exact hpassword _ hat hstop
  · rintro ⟨hauthority, hcolon, hfirst⟩
    have hplain : ∀ x, x ∈ raw.user ∨ x ∈ raw.password → x ∉ consumer.userinfoStops := by
      intro x hmem hstop
      rcases mem_userinfoStops.mp hstop with hstop | ⟨hat, rfl⟩
      · exact hauthority x (by simp only [Raw.authority, List.mem_append, List.mem_cons]; tauto)
          hstop
      · exact hfirst hat (by simp only [List.mem_append, List.mem_cons]; tauto)
    refine ⟨fun x hmem hstop => ?_, fun x hmem => hplain x (.inr hmem)⟩
    rcases List.mem_cons.mp hstop with rfl | hstop
    · exact hcolon hmem
    · exact hplain x (.inl hmem) hstop

/-- A text put together from raw parts is read back as these parts exactly when each
holds no delimiter of its place and no escape. -/
theorem read_compose_iff {c : Char} {scheme : List Char}
    (hscheme : ∀ x ∈ c :: scheme, x ∉ [':', '/', '?', '#'])
    (hhost : ∀ x ∈ raw.host, x ∉ ['/', '?', '#', '@', ':'])
    (hport : ∀ x ∈ raw.port, x ∉ ['/', '?', '#', '@', ':'])
    (hquery : ∀ query, raw.query = some query → query.Plain certificateParam) :
    consumer.read certificateParam (raw.compose (c :: scheme) certificateParam) =
        some raw.reading ↔
      Survives (':' :: consumer.userinfoStops) raw.user ∧
      Survives consumer.userinfoStops raw.password ∧ hasEscape raw.host = false ∧
      Survives ['?', '#'] raw.database ∧
      ∀ certificate, raw.query.bind Query.certificate = some certificate →
        Survives consumer.queryStops certificate := by
  have hcompose : raw.compose (c :: scheme) certificateParam = c :: scheme ++ ':' :: '/' :: '/' ::
      (raw.authority ++ '/' :: (raw.database ++ raw.tail certificateParam)) := by
    simp [Raw.compose]
  have hiff := userinfo_clean_iff consumer raw (by grind) (by grind)
  rw [Consumer.read, hcompose, split_scheme hscheme, splitAuthority]
  by_cases hclean : ∀ x ∈ raw.authority, x ∉ ['/', '?', '#']
  · obtain ⟨htake, hdrop⟩ := takeWhile_clean hclean (by simp : '/' ∈ ['/', '?', '#'])
      (raw.database ++ raw.tail certificateParam)
    rw [htake, hdrop, ← List.cons_append,
      readComponents_composed_iff _ (by grind) (by grind) hquery]
    simp only [Survives]
    tauto
  · have hsome : ¬ ((∀ x ∈ raw.user, x ∉ ':' :: consumer.userinfoStops) ∧
        ∀ x ∈ raw.password, x ∉ consumer.userinfoStops) := fun h =>
      hclean (hiff.mp h).1
    constructor
    · -- the authority ends too early for all of its parts
      intro h
      obtain ⟨authority, -, hauthority, hread, -⟩ := readComponents_eq_some_iff.mp h
      rw [splitPath_authority] at hauthority
      cases hauthority
      push Not at hclean
      have hlt := length_takeWhile_lt hclean
        ('/' :: (raw.database ++ raw.tail certificateParam))
      have hle := length_readAuthority hread
      rw [length_authority] at hlt
      simp only [Raw.reading] at hle
      omega
    · rintro ⟨huser, hpassword, -⟩
      exact absurd ⟨huser.1, hpassword.1⟩ hsome

end Composition

end Uri
