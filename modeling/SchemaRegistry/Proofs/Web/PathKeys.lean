import SchemaRegistry.Proofs.Web.Addressing

/-!
# Keys in paths and keys in bodies

A key comes to the service in a path or in a body. In a body its parts are checked by the model, which trims them
first. In a path they are segments, whose length is limited before the model sees them. `path_key_agrees` compares the
two on all segments that a path can have: they are not empty and have no slash.

As long as no segment is longer than a part of a key may be, the two agree: only a blank segment is refused, and a
client is told of a path what the model says of a body. A longer segment is refused for its length as it stands in the
path. That is told of the path and not of the part, and it does not matter what trimming would leave.
-/

namespace SchemaRegistry

/-- What a client is told of a refusal besides the message: the field and the type of the error. -/
def Refusal.told (r : Refusal) : String × String := (r.field, r.cause.kind .request)

namespace KeySegments

/-! ## Segments -/

/-- The segments with the names of the parts that they are for, in their order. -/
def named (s : KeySegments) : List (String × String) :=
  [("namespace", s.space), ("schema_name", s.name), ("version", s.version)]

/-- No segment is empty, and none has a slash. -/
def Proper (s : KeySegments) : Prop := ∀ x ∈ s.named, x.2 ≠ "" ∧ '/' ∉ x.2.toList

instance (s : KeySegments) : Decidable s.Proper :=
  inferInstanceAs (Decidable (∀ x ∈ s.named, x.2 ≠ "" ∧ '/' ∉ x.2.toList))

/-- The parts whose segments are longer than a part may be. -/
def overlong (s : KeySegments) : List String :=
  (s.named.filter fun x => Service.maxSegment < x.2.length).map Prod.fst

/-- The parts whose segments are blank. -/
def blank (s : KeySegments) : List String := (s.named.filter fun x => Text.trim x.2 = "").map Prod.fst

/-- The parts of a key in a body, as they are in the path. -/
def body (s : KeySegments) : Json := .obj (Key.fieldsOf s.space s.name s.version)

variable {s : KeySegments}

/-! ## Routes -/

/-- The address leads to the schema, and with a verb behind it to a decision on it or a verdict by it. -/
structure Routed (s : KeySegments) : Prop where
  schema : Route.ofPath? (Percent.decode s.address.toList) = some (.schema s)
  approval : Route.ofPath? (Percent.decode (s.address ++ "/approve").toList) = some (.decision .approve s)
  rejection : Route.ofPath? (Percent.decode (s.address ++ "/reject").toList) = some (.decision .reject s)
  validation : Route.ofPath? (Percent.decode (s.address ++ "/validate").toList) = some (.validation s)

theorem segments?_eq (h : s.Proper) :
    Route.segments? s.space.toList s.name.toList s.version.toList = some s := by
  simp only [Proper, named, List.forall_mem_cons] at h
  obtain ⟨⟨hspace, -⟩, ⟨hname, -⟩, ⟨hversion, -⟩, -⟩ := h
  simp [Route.segments?, hspace, hname, hversion]

/-- The segments before the last are cut off as they are. -/
theorem splitOn_address (h : s.Proper) {suffix : String} (hplain : '%' ∉ suffix.toList) :
    Text.splitOn '/' (Percent.decode (s.address ++ suffix).toList) =
      [] :: "schemas".toList :: s.space.toList :: s.name.toList ::
        Text.splitOn '/' (s.version.toList ++ suffix.toList) := by
  simp only [Proper, named, List.forall_mem_cons] at h
  obtain ⟨⟨-, hspace⟩, ⟨-, hname⟩, -⟩ := h
  have hschemas : Text.splitOn '/' "schemas".toList = ["schemas".toList] := by decide
  rw [s.decode_address hplain, ← List.nil_append ('/' :: _)]
  simp only [Text.splitOn_append, hschemas, Text.splitOn_of_not_mem hspace, Text.splitOn_of_not_mem hname]
  rfl

theorem splitOn_version (h : s.Proper) : Text.splitOn '/' s.version.toList = [s.version.toList] := by
  simp only [Proper, named, List.forall_mem_cons] at h
  obtain ⟨-, -, ⟨-, hversion⟩, -⟩ := h
  exact Text.splitOn_of_not_mem hversion

/-- A verb behind the address is cut off too. -/
theorem ofPath?_verb (h : s.Proper) {verb : String} (hplain : '%' ∉ verb.toList) (hslash : '/' ∉ verb.toList) :
    Route.ofPath? (Percent.decode (s.address ++ ("/" ++ verb)).toList) =
      Route.ofSegments?
        [[], "schemas".toList, s.space.toList, s.name.toList, s.version.toList, verb.toList] := by
  have hverb : ("/" ++ verb).toList = '/' :: verb.toList := by simp
  rw [Route.ofPath?, splitOn_address h (by simp [hverb, hplain]), hverb, Text.splitOn_append, splitOn_version h,
    Text.splitOn_of_not_mem hslash]
  rfl

theorem routed (h : s.Proper) : s.Routed where
  schema := by
    have hplain : '%' ∉ "".toList := by decide
    have hcut := splitOn_address h hplain
    rw [String.append_empty, String.toList_empty, List.append_nil, splitOn_version h] at hcut
    simp [Route.ofPath?, hcut, Route.ofSegments?, segments?_eq h]
  approval := by
    rw [show "/approve" = "/" ++ "approve" from rfl, ofPath?_verb h (by decide) (by decide)]
    simp [Route.ofSegments?, segments?_eq h, Route.endsWith]
  rejection := by
    rw [show "/reject" = "/" ++ "reject" from rfl, ofPath?_verb h (by decide) (by decide)]
    simp [Route.ofSegments?, segments?_eq h, Route.endsWith]
  validation := by
    rw [show "/validate" = "/" ++ "validate" from rfl, ofPath?_verb h (by decide) (by decide)]
    simp [Route.ofSegments?, segments?_eq h, Route.endsWith]

/-! ## What the path refuses -/

/-- The path refuses the segments that are too long. -/
theorem pathRefusals_eq (s : KeySegments) :
    Service.pathRefusals s =
      s.overlong.map fun name => ⟨[.name "path", .name name], .tooLong Service.maxSegment⟩ := by
  simp only [Service.pathRefusals, Service.segmentRefusals, overlong, named, List.filter_cons, List.filter_nil,
    decide_eq_true_eq]
  split_ifs <;> rfl

/-! ## What the model refuses -/

theorem length_trim_le (text : String) : (Text.trim text).length ≤ text.length := by
  rw [Text.trim, String.length_ofList, ← String.length_toList, Text.trimList, List.length_reverse]
  have hback := (List.dropWhile_suffix Text.isBlank (l := (text.toList.dropWhile Text.isBlank).reverse)).length_le
  have hfront := (List.dropWhile_suffix Text.isBlank (l := text.toList)).length_le
  rw [List.length_reverse] at hback
  omega

/-- A part that is not too long is refused just if it is blank. -/
theorem required_or {name text : String} {fields : Checked.Fields} (hfield : Json.lookup name fields = some (.str text))
    (h : text.length ≤ Service.maxSegment) :
    (Text.trim text = "" ∧
        Checked.required name (Checked.trimmed keyPartLimits) fields = .refused [⟨[.name name], .tooShort 1⟩]) ∨
      Text.trim text ≠ "" ∧
        ∃ part, Checked.required name (Checked.trimmed keyPartLimits) fields = .accepted part := by
  have hlength : (Text.trim text).length ≤ 128 := (length_trim_le text).trans h
  by_cases hblank : Text.trim text = ""
  · refine .inl ⟨hblank, ?_⟩
    have hunfit : ¬ keyPartLimits.Admit "".length := by decide
    simp only [Checked.required, hfield, Checked.trimmed, Checked.text, Checked.andThen, hblank, dif_neg hunfit]
    rfl
  · have hleast : 1 ≤ (Text.trim text).length := by
      rw [Nat.one_le_iff_ne_zero, ne_eq, String.length_eq_zero_iff]
      exact hblank
    have hfits : keyPartLimits.Admit (Text.trim text).length := ⟨hleast, by simpa [keyPartLimits] using hlength⟩
    refine .inr ⟨hblank, ⟨Text.trim text, hfits, by simp⟩, ?_⟩
    simp only [Checked.required, hfield, Checked.trimmed, Checked.text, Checked.andThen, dif_pos hfits]
    rfl

theorem check_body_eq (s : KeySegments) : Key.check s.body = Key.ofParts s.space s.name s.version := rfl

/-- If no segment is too long, the model refuses the blank ones and nothing else. -/
theorem check_body (h : s.overlong = []) :
    (s.blank = [] ∧ ∃ k, Key.check s.body = .accepted k) ∨
      s.blank ≠ [] ∧ Key.check s.body = .refused (s.blank.map fun name => ⟨[.name name], .tooShort 1⟩) := by
  simp only [overlong, List.map_eq_nil_iff, List.filter_eq_nil_iff, named, List.forall_mem_cons, decide_eq_true_eq,
    not_lt] at h
  obtain ⟨hspace, hname, hversion, -⟩ := h
  obtain ⟨hspaceField, hnameField, hversionField⟩ := Key.lookup_fieldsOf s.space s.name s.version
  rw [check_body_eq, Key.ofParts, Key.checkFields]
  -- Each part is either refused on its own or taken.
  rcases required_or hspaceField hspace with ⟨hs, hspace⟩ | ⟨hs, space, hspace⟩ <;>
    rcases required_or hnameField hname with ⟨hn, hname⟩ | ⟨hn, name, hname⟩ <;>
    rcases required_or hversionField hversion with ⟨hv, hversion⟩ | ⟨hv, version, hversion⟩ <;>
    rw [hspace, hname, hversion] <;>
    simp [blank, named, hs, hn, hv] <;>
    rfl

/-! ## What a client is told -/

theorem eq_of_mem_names {p : String × String → Bool} {name : String} (h : name ∈ (s.named.filter p).map Prod.fst) :
    name = "namespace" ∨ name = "schema_name" ∨ name = "version" := by
  obtain ⟨x, hx, rfl⟩ := List.mem_map.mp h
  have hmem := (List.mem_filter.mp hx).1
  simp only [named, List.mem_cons, List.not_mem_nil, or_false] at hmem
  rcases hmem with rfl | rfl | rfl <;> simp

theorem told_blank (s : KeySegments) :
    (s.blank.map fun name => (⟨[.name name], .tooShort 1⟩ : Refusal)).map Refusal.told =
      s.blank.map fun name => (name, "string_too_short") := by
  rw [List.map_map]
  refine List.map_congr_left fun name hname => ?_
  rcases eq_of_mem_names hname with rfl | rfl | rfl <;> rfl

theorem told_overlong (s : KeySegments) :
    (Service.pathRefusals s).map Refusal.told =
      s.overlong.map fun name => ("path." ++ name, "string_too_long") := by
  rw [pathRefusals_eq, List.map_map]
  refine List.map_congr_left fun name hname => ?_
  rcases eq_of_mem_names hname with rfl | rfl | rfl <;> rfl

end KeySegments

/-- The request to fetch the schema of these segments. -/
def Request.fetchingAt (s : KeySegments) : Request :=
  { method := .get, target := .ofPath s.address, body := .absent }

namespace Service

variable {s : KeySegments}

/-- What is asked at the address of segments depends on the key that they make. -/
theorem serve_fetchingAt (h : s.Proper) (around : Surroundings) (t : Table) :
    serve around t (.fetchingAt s) = get around t s := by
  have hmethod : (Request.fetchingAt s).method ∈ (Route.schema s).methods := by
    simp [Request.fetchingAt, Route.methods]
  rw [serve_of_route (KeySegments.routed h).schema (.inl rfl) hmethod, serveRoute]

theorem keyOf_of_short (h : s.overlong = []) (payload : List Refusal) :
    keyOf s payload =
      match Key.check s.body with
      | .accepted k => .ok k
      | .refused why => .error (.refused why) := by
  have hnone : pathRefusals s = [] := by rw [KeySegments.pathRefusals_eq, h, List.map_nil]
  rw [KeySegments.check_body_eq, keyOf]
  cases Key.ofParts s.space s.name s.version with
  | accepted k => simp only [hnone]
  | refused why => simp only [hnone]

theorem keyOf_of_overlong (h : s.overlong ≠ []) (payload : List Refusal) :
    keyOf s payload = .error (.refused (pathRefusals s ++ payload)) := by
  have hsome : pathRefusals s ≠ [] := by
    rw [KeySegments.pathRefusals_eq]
    exact mt List.map_eq_nil_iff.mp h
  unfold keyOf
  split
  case h_1 hnone => exact absurd hnone hsome
  case h_2 => rfl

/-- **A key in a path is what it is in a body, unless a segment is too long.** The address leads to the schema with
just these segments. If none of them is too long, they make a key just if the model takes them, and the same one; if
it does not, a client is told of the blank parts, in their order, on either way. If some are too long, they make no
key, and a client is told of just these. -/
theorem path_key_agrees (hs : s.Proper) :
    s.Routed ∧
    (s.overlong = [] → ∀ payload,
      (∀ k, keyOf s payload = .ok k ↔ Key.check s.body = .accepted k) ∧
      ((∃ k, Key.check s.body = .accepted k) ↔ s.blank = []) ∧
      ∀ why, Key.check s.body = .refused why →
        keyOf s payload = .error (.refused why) ∧
          why.map Refusal.told = s.blank.map fun name => (name, "string_too_short")) ∧
    (s.overlong ≠ [] → ∀ payload, ∃ why, keyOf s payload = .error (.refused (why ++ payload)) ∧
      why.map Refusal.told = s.overlong.map fun name => ("path." ++ name, "string_too_long")) ∧
    ∀ around t,
      (∀ k, keyOf s [] = .ok k → serve around t (.fetchingAt s) =
        asking around t (reply t (.answering 200 Details.toJson (Registry.get t k)))) ∧
      ∀ response, keyOf s [] = .error response → serve around t (.fetchingAt s) = reply t response := by
  refine ⟨KeySegments.routed hs, fun hshort payload => ?_, fun hlong payload => ?_, fun around t => ?_⟩
  · have hkey := keyOf_of_short hshort payload
    rcases KeySegments.check_body hshort with ⟨hblank, k, hk⟩ | ⟨hblank, hwhy⟩
    · rw [hk] at hkey ⊢
      refine ⟨fun k' => ?_, ⟨fun _ => hblank, fun _ => ⟨k, rfl⟩⟩, nofun⟩
      rw [hkey, Except.ok.injEq, Checked.accepted.injEq]
    · have htold := s.told_blank
      generalize (s.blank.map fun name => (⟨[.name name], .tooShort 1⟩ : Refusal)) = why at hwhy htold
      rw [hwhy] at hkey ⊢
      refine ⟨fun k => ?_, ⟨fun ⟨_, hk⟩ => (nomatch hk), fun hnone => absurd hnone hblank⟩, ?_⟩
      · rw [hkey]
        exact ⟨nofun, nofun⟩
      · rintro why' ⟨⟩
        exact ⟨hkey, htold⟩
  · exact ⟨_, keyOf_of_overlong hlong payload, s.told_overlong⟩
  · rw [serve_fetchingAt hs, get]
    constructor
    · intro k hk
      rw [hk]
    · intro response hresponse
      rw [hresponse]

/-! ## Versions -/

/-- The segments of a version of a schema of customers. -/
def versionSegments (version : String) : KeySegments := ⟨"pay & bär", "customer", version⟩

/-- A version that is padded is trimmed in a path as in a body, and a blank one is refused in both. -/
theorem path_key_agrees_versions :
    ((versionSegments " v1").Proper ∧ (versionSegments " v1").overlong = [] ∧
      ∃ k, keyOf (versionSegments " v1") [] = .ok k ∧ Key.check (versionSegments " v1").body = .accepted k) ∧
    (versionSegments " ").Proper ∧ (versionSegments " ").overlong = [] ∧
      ∃ why, Key.check (versionSegments " ").body = .refused why ∧
        keyOf (versionSegments " ") [] = .error (.refused why) ∧
        why.map Refusal.told = [("version", "string_too_short")] := by
  have hpadded : (versionSegments " v1").Proper := by decide
  have hblank : (versionSegments " ").Proper := by decide
  have hshort : (versionSegments " v1").overlong = [] := by decide
  have hshort' : (versionSegments " ").overlong = [] := by decide
  constructor
  · obtain ⟨-, hagree, -⟩ := path_key_agrees hpadded
    obtain ⟨hkeys, haccepted, -⟩ := hagree hshort []
    obtain ⟨k, hk⟩ := haccepted.mpr (by decide +kernel)
    exact ⟨hpadded, hshort, k, (hkeys k).mpr hk, hk⟩
  · obtain ⟨-, hagree, -⟩ := path_key_agrees hblank
    obtain ⟨-, -, hrefused⟩ := hagree hshort' []
    have hnames : (versionSegments " ").blank = ["version"] := by decide +kernel
    have hsome : (versionSegments " ").blank ≠ [] := by simp [hnames]
    obtain ⟨-, hwhy⟩ := (KeySegments.check_body hshort').resolve_left fun hnone => hsome hnone.1
    obtain ⟨hkey, htold⟩ := hrefused _ hwhy
    refine ⟨hblank, hshort', _, hwhy, hkey, ?_⟩
    rw [htold, hnames]
    rfl

/-- A version with so much space behind it that the segment is too long. -/
def spacedVersion : String := "v1" ++ String.ofList (List.replicate 127 ' ')

/-- A version that is too long by one character. -/
def longVersion : String := String.ofList (List.replicate 129 'v')

/-- A padded version that is too long in a path is taken in a body. A version that is too long in both is told as a
part of the path there, and as a part of the key here. -/
theorem long_segments_disagree :
    ((versionSegments spacedVersion).Proper ∧
      (∃ k, Key.check (versionSegments spacedVersion).body = .accepted k) ∧
      ∀ payload k, keyOf (versionSegments spacedVersion) payload ≠ .ok k) ∧
    (versionSegments longVersion).Proper ∧
      ∃ why told, Key.check (versionSegments longVersion).body = .refused why ∧
        keyOf (versionSegments longVersion) [] = .error (.refused told) ∧
        why.map Refusal.told = [("version", "string_too_long")] ∧
        told.map Refusal.told = [("path.version", "string_too_long")] := by
  have hlong : (versionSegments spacedVersion).overlong ≠ [] := by decide +kernel
  have hlong' : (versionSegments longVersion).overlong = ["version"] := by decide +kernel
  constructor
  · refine ⟨by decide +kernel, ?_, fun payload k hk => ?_⟩
    · have htaken : (Key.check (versionSegments spacedVersion).body).toOption.isSome := by decide +kernel
      cases hcheck : Key.check (versionSegments spacedVersion).body with
      | accepted k => exact ⟨k, rfl⟩
      | refused why =>
        rw [hcheck] at htaken
        cases htaken
    · rw [keyOf_of_overlong hlong] at hk
      cases hk
  · have hwhy : (Key.check (versionSegments longVersion).body).refusals.map Refusal.told =
        [("version", "string_too_long")] := by decide +kernel
    have htold := (versionSegments longVersion).told_overlong
    rw [hlong'] at htold
    refine ⟨by decide +kernel, ?_⟩
    cases hcheck : Key.check (versionSegments longVersion).body with
    | accepted k =>
      rw [hcheck] at hwhy
      cases hwhy
    | refused why =>
      rw [hcheck] at hwhy
      refine ⟨why, _, rfl, keyOf_of_overlong (by simp [hlong']) [], hwhy, ?_⟩
      rw [List.append_nil]
      exact htold

end Service

end SchemaRegistry
