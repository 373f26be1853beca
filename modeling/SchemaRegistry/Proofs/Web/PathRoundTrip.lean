import Mathlib.Tactic.IntervalCases
import SchemaRegistry.Proofs.Text.Utf8
import SchemaRegistry.Web.Route

/-!
# Paths are read back

Whatever stands in a text, its percent-encoded form decodes to it, between any neighbours. Once a path is
decoded, a slash that was encoded is like any other: `splitOn_append` cuts a path at each of its slashes, and a
text is one segment just if it has none.
-/

namespace SchemaRegistry

/-! ## Percent encoding -/

namespace Percent

/-- A character other than `%` stands for its own bytes. -/
theorem bytes_cons {c : Char} (h : c ≠ '%') (rest : List Char) :
    bytes (c :: rest) = Text.Utf8.encode c ++ bytes rest := by
  rw [bytes.eq_def]
  split
  case h_5 heq =>
    cases heq
    rfl
  -- In all other cases the text is empty or begins with `%`.
  all_goals
    rename_i heq
    cases heq
    try exact absurd rfl h

/-- A character that needs no encoding is not the one that begins a byte. -/
theorem ne_percent_of_isUnreserved {c : Char} (h : isUnreserved c = true) : c ≠ '%' := by
  rintro rfl
  revert h
  decide

theorem hexValue?_digitChar {d : Nat} (h : d < 16) : Json.hexValue? (Nat.digitChar d).toUpper = some d := by
  interval_cases d <;> rfl

/-- Two digits stand for their byte, whatever follows them. -/
theorem bytes_encodeByte {b : Nat} (h : b < 256) (rest : List Char) :
    bytes (encodeByte b ++ rest) = b :: bytes rest := by
  have hhigh : Json.hexValue? (Nat.digitChar (b / 16)).toUpper = some (b / 16) :=
    hexValue?_digitChar (by omega)
  have hlow : Json.hexValue? (Nat.digitChar (b % 16)).toUpper = some (b % 16) :=
    hexValue?_digitChar (by omega)
  rw [encodeByte, List.cons_append, List.cons_append, List.cons_append, List.nil_append, bytes]
  simp only [hhigh, hlow]
  rw [Nat.div_add_mod']

theorem bytes_flatMap_encodeByte {bs : List Nat} (h : ∀ b ∈ bs, b < 256) (rest : List Char) :
    bytes (bs.flatMap encodeByte ++ rest) = bs ++ bytes rest := by
  induction bs with
  | nil => rfl
  | cons b bs ih =>
    rw [List.flatMap_cons, List.append_assoc, bytes_encodeByte (h b (by simp)),
      ih fun other hother => h other (by simp [hother]), List.cons_append]

theorem bytes_encodeChar (c : Char) (rest : List Char) :
    bytes (encodeChar c ++ rest) = Text.Utf8.encode c ++ bytes rest := by
  unfold encodeChar
  split
  case isTrue hplain => exact bytes_cons (ne_percent_of_isUnreserved hplain) rest
  case isFalse => exact bytes_flatMap_encodeByte (Text.Utf8.lt_of_mem_encode c) rest

/-- A text stands for its bytes, whatever follows it. -/
theorem bytes_encode (s : String) (rest : List Char) :
    bytes ((encode s).toList ++ rest) = s.toList.flatMap Text.Utf8.encode ++ bytes rest := by
  rw [encode, String.toList_ofList]
  induction s.toList with
  | nil => rfl
  | cons c cs ih =>
    rw [List.flatMap_cons, List.append_assoc, bytes_encodeChar, ih, List.flatMap_cons, List.append_assoc]

/-- What has no `%` stands for itself. -/
theorem bytes_append {cs : List Char} (h : '%' ∉ cs) (rest : List Char) :
    bytes (cs ++ rest) = cs.flatMap Text.Utf8.encode ++ bytes rest := by
  induction cs with
  | nil => rfl
  | cons c cs ih =>
    rw [List.mem_cons, not_or] at h
    rw [List.cons_append, bytes_cons (Ne.symm h.1), ih h.2, List.flatMap_cons, List.append_assoc]

end Percent

/-! ## Segments -/

namespace Text

theorem splitOn_eq (separator : Char) (cs : List Char) : splitOn separator cs = cs.splitOn separator := by
  induction cs with
  | nil => rfl
  | cons c cs ih =>
    rw [splitOn, List.splitOn_cons_eq_if_modifyHead, ih]
    by_cases hc : c = separator
    · simp [hc]
    · rw [if_neg hc, if_neg (by simpa using hc)]
      cases hparts : cs.splitOn separator with
      | nil => exact absurd hparts (List.splitOn_ne_nil _ _)
      | cons part more => rfl

variable {separator : Char} {cs cs' : List Char}

theorem splitOn_append : splitOn separator (cs ++ separator :: cs') =
    splitOn separator cs ++ splitOn separator cs' := by
  simp only [splitOn_eq, List.splitOn_append_cons_self]

theorem splitOn_of_not_mem (h : separator ∉ cs) : splitOn separator cs = [cs] := by
  rw [splitOn_eq]
  exact List.splitOn_eq_singleton h

theorem length_splitOn_pos : 0 < (splitOn separator cs).length := by
  rw [splitOn_eq]
  exact List.length_pos_iff.mpr (List.splitOn_ne_nil _ _)

theorem two_le_length_splitOn (h : separator ∈ cs) : 2 ≤ (splitOn separator cs).length := by
  obtain ⟨before, after, rfl⟩ := List.append_of_mem h
  have hbefore : 0 < (splitOn separator before).length := length_splitOn_pos
  have hafter : 0 < (splitOn separator after).length := length_splitOn_pos
  rw [splitOn_append, List.length_append]
  omega

end Text

/-! ## Addresses -/

namespace KeySegments

/-- The path that has the percent-encoded segments. -/
def address (s : KeySegments) : String :=
  "/schemas/" ++ Percent.encode s.space ++ "/" ++ Percent.encode s.name ++ "/" ++ Percent.encode s.version

/-- The address is decoded to the segments as they are. -/
theorem decode_address (s : KeySegments) {suffix : String} (h : '%' ∉ suffix.toList) :
    Percent.decode (s.address ++ suffix).toList =
      '/' :: ("schemas".toList ++ '/' :: (s.space.toList ++ '/' :: (s.name.toList ++
        '/' :: (s.version.toList ++ suffix.toList)))) := by
  have hroot (rest : List Char) : Percent.bytes ("/schemas/".toList ++ rest) =
      "/schemas/".toList.flatMap Text.Utf8.encode ++ Percent.bytes rest :=
    Percent.bytes_append (by decide) rest
  have hslash (rest : List Char) : Percent.bytes ("/".toList ++ rest) =
      "/".toList.flatMap Text.Utf8.encode ++ Percent.bytes rest :=
    Percent.bytes_append (by decide) rest
  have hsuffix : Percent.bytes suffix.toList = suffix.toList.flatMap Text.Utf8.encode := by
    have hend : Percent.bytes [] = [] := by rw [Percent.bytes]
    simpa [hend] using Percent.bytes_append h []
  rw [Percent.decode, address]
  simp only [String.toList_append, List.append_assoc, hroot, hslash, Percent.bytes_encode, hsuffix,
    ← List.flatMap_append, Text.Utf8.decode_flatMap_encode]
  rfl

end KeySegments

namespace Route

/-- A path with more than six segments is no route. -/
theorem ofSegments?_of_length {segments : List (List Char)} (h : 6 < segments.length) :
    ofSegments? segments = none := by
  unfold ofSegments?
  split <;> simp at h ⊢

/-- No route that is read has a path with more than five segments. -/
theorem not_get_of_length {segments : List (List Char)} (h : 5 < segments.length) {route : Route}
    (hroute : ofSegments? segments = some route) : .get ∉ route.methods := by
  unfold ofSegments? at hroute
  split at hroute
  case h_4 =>
    split at hroute
    case isTrue =>
      obtain ⟨key, -, hverb⟩ := Option.bind_eq_some_iff.mp hroute
      split_ifs at hverb <;> cases hverb <;> simp [methods, Method.get, Method.post]
    case isFalse => cases hroute
  all_goals simp at h hroute

end Route

end SchemaRegistry
