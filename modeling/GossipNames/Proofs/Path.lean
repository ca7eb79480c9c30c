import GossipNames.Path

/-! A path is read back from its text, and its text is the one that was read but for a bare root. What
is put behind a path continues it. -/

namespace GossipNames.Path

theorem untilSlash_append {chars rest : List Char} (plain : '/' ∉ chars)
    (absolute : ∀ char ∈ rest.head?, char = '/') : untilSlash (chars ++ rest) = chars := by
  have kept : ∀ char ∈ chars, char ≠ '/' := fun char member same => plain (same ▸ member)
  have stopped : untilSlash rest = [] := by
    cases rest with
    | nil => rfl
    | cons char tail =>
      obtain rfl : char = '/' := absolute char rfl
      rfl
  unfold untilSlash at stopped ⊢
  rw [List.takeWhile_append_of_pos (by simpa using kept), stopped, List.append_nil]

theorem fromSlash_append {chars rest : List Char} (plain : '/' ∉ chars)
    (absolute : ∀ char ∈ rest.head?, char = '/') : fromSlash (chars ++ rest) = rest := by
  have kept : ∀ char ∈ chars, char ≠ '/' := fun char member same => plain (same ▸ member)
  have stopped : fromSlash rest = rest := by
    cases rest with
    | nil => rfl
    | cons char tail =>
      obtain rfl : char = '/' := absolute char rfl
      rfl
  unfold fromSlash at stopped ⊢
  rw [List.dropWhile_append_of_pos (by simpa using kept), stopped]

theorem toList_text (path : Path) :
    path.text.toList
      = '/' :: (path.space.label.toList ++ '/' :: (path.root.toList ++ path.remainder.toList)) := by
  simp [text]

private theorem inSpace_parts (path : Path) :
    inSpace path.space (path.root.toList ++ path.remainder.toList) = .ok path := by
  have root := untilSlash_append path.rootPlain path.remainderAbsolute
  have remainder := fromSlash_append path.rootPlain path.remainderAbsolute
  simp only [inSpace, root, remainder, String.ofList_toList]
  exact dif_pos path.rootNonempty

private theorem parseChars_parts (space : Namespace) (rest : List Char) :
    parseChars ('/' :: (space.label.toList ++ '/' :: rest)) = inSpace space rest := by
  have plain : '/' ∉ space.label.toList := by cases space <;> decide
  have label : untilSlash (space.label.toList ++ '/' :: rest) = space.label.toList :=
    untilSlash_append plain (by simp)
  have after : fromSlash (space.label.toList ++ '/' :: rest) = '/' :: rest :=
    fromSlash_append plain (by simp)
  simp only [parseChars, label, after, String.ofList_toList, List.drop_succ_cons, List.drop_zero]
  cases space <;> simp [Namespace.label]

theorem parse_text (path : Path) : parse path.text = .ok path := by
  unfold parse
  rw [toList_text, parseChars_parts, inSpace_parts]
  rfl

/-- Different paths are written differently. -/
theorem text_injective {first second : Path} (same : first.text = second.text) : first = second := by
  have read := parse_text first
  rw [same, parse_text second] at read
  exact (Except.ok.inj read).symm

/-- The root and what follows it are the characters that were read. -/
private theorem inSpace_ok {space : Namespace} {chars : List Char} {path : Path}
    (parsed : inSpace space chars = .ok path) :
    path.space = space ∧ path.root.toList ++ path.remainder.toList = chars := by
  unfold inSpace at parsed
  split at parsed
  · cases parsed
    refine ⟨rfl, ?_⟩
    rw [String.toList_ofList, String.toList_ofList]
    exact List.takeWhile_append_dropWhile
  · cases parsed

/-- What stands between the first slash and the namespace is its label. -/
private theorem parseChars_slash {rest : List Char} {path : Path}
    (parsed : parseChars ('/' :: rest) = .ok path) :
    ∃ after, rest = path.space.label.toList ++ '/' :: after
      ∧ path.root.toList ++ path.remainder.toList = after := by
  have split : rest = untilSlash rest ++ fromSlash rest := List.takeWhile_append_dropWhile.symm
  have found : ∃ space, String.ofList (untilSlash rest) = Namespace.label space
      ∧ inSpace space ((fromSlash rest).drop 1) = .ok path := by
    simp only [parseChars] at parsed
    split at parsed
    · rename_i label
      exact ⟨.ipfs, label, parsed⟩
    · split at parsed
      · rename_i label
        exact ⟨.ipns, label, parsed⟩
      · cases parsed
  obtain ⟨space, label, parsed⟩ := found
  obtain ⟨rfl, parts⟩ := inSpace_ok parsed
  have labelChars : untilSlash rest = path.space.label.toList := by
    rw [← label, String.toList_ofList]
  refine ⟨(fromSlash rest).drop 1, ?_, parts⟩
  cases tail : fromSlash rest with
  | nil =>
    rw [tail] at parts
    exact absurd (List.append_eq_nil_iff.mp parts).1 path.rootNonempty
  | cons char after =>
    obtain rfl : char = '/' := head_fromSlash rest char (by rw [tail]; rfl)
    rw [tail, labelChars] at split
    exact split

/-- A path that was read is written as it was read, a bare root in the `ipfs` namespace. -/
theorem text_of_parse {input : String} {path : Path} (parsed : parse input = .ok path) :
    path.text = if ['/'] <+: input.toList then input else "/ipfs/" ++ input := by
  have read : parseChars input.toList = .ok path := by
    unfold parse at parsed
    cases result : parseChars input.toList with
    | error fault => rw [result] at parsed; cases parsed
    | ok found => rw [result] at parsed; cases parsed; rfl
  apply String.toList_inj.mp
  rw [toList_text]
  cases shape : input.toList with
  | nil => rw [shape] at read; cases read
  | cons char rest =>
    rw [shape] at read
    by_cases absolute : char = '/'
    · subst absolute
      obtain ⟨after, same, parts⟩ := parseChars_slash read
      rw [if_pos (by simp), shape, same, parts]
    · have bare : ¬ ['/'] <+: char :: rest := by simp [Ne.symm absolute]
      rw [if_neg bare, String.toList_append, shape]
      unfold parseChars at read
      split at read
      · cases read
      · rename_i same
        exact absurd (List.cons.inj same).1 absolute
      · split at read
        · cases read
        · obtain ⟨space, parts⟩ := inSpace_ok read
          rw [space, parts]
          rfl

theorem absolute_empty : ∀ char ∈ "".toList.head?, char = '/' :=
  nofun

theorem absolute_append {first second : String}
    (firstAbsolute : ∀ char ∈ first.toList.head?, char = '/')
    (secondAbsolute : ∀ char ∈ second.toList.head?, char = '/') :
    ∀ char ∈ (first ++ second).toList.head?, char = '/' := by
  intro char member
  rw [String.toList_append, List.head?_append] at member
  cases shape : first.toList.head? with
  | none => rw [shape] at member; exact secondAbsolute char member
  | some head =>
    rw [shape] at member
    cases member
    exact firstAbsolute char shape

/-- A suffix that starts with a slash, or is empty, continues what follows the root. -/
theorem join_ok (path : Path) {suffix : String}
    (absolute : ∀ char ∈ suffix.toList.head?, char = '/') :
    ∃ joined, path.join suffix = .ok joined ∧ joined.text = path.text ++ suffix
      ∧ joined.space = path.space ∧ joined.root = path.root
      ∧ joined.remainder = path.remainder ++ suffix := by
  let joined : Path := { path with
    remainder := path.remainder ++ suffix
    remainderAbsolute := absolute_append path.remainderAbsolute absolute }
  have text : joined.text = path.text ++ suffix := by simp [joined, Path.text, String.append_assoc]
  refine ⟨joined, ?_, text, rfl, rfl, rfl⟩
  unfold join
  split
  · rename_i empty
    subst empty
    simp [joined]
  · rw [← text, parse_text]

/-- Any suffix can be put behind a path, one that continues the root included. -/
theorem exists_join (path : Path) (suffix : String) :
    ∃ joined, path.join suffix = .ok joined ∧ joined.text = path.text ++ suffix := by
  unfold join
  split
  · rename_i empty
    subst empty
    exact ⟨path, rfl, String.append_empty.symm⟩
  · have chars : (path.text ++ suffix).toList
        = '/' :: (path.space.label.toList
          ++ '/' :: (path.root.toList ++ (path.remainder.toList ++ suffix.toList))) := by
      simp [toList_text]
    have kept : ∀ char ∈ path.root.toList, char ≠ '/' :=
      fun char member same => path.rootPlain (same ▸ member)
    have nonempty :
        untilSlash (path.root.toList ++ (path.remainder.toList ++ suffix.toList)) ≠ [] := by
      rw [untilSlash, List.takeWhile_append_of_pos (by simpa using kept)]
      exact List.append_ne_nil_of_left_ne_nil path.rootNonempty _
    obtain ⟨joined, parsed⟩ : ∃ joined, parse (path.text ++ suffix) = .ok joined := by
      unfold parse
      rw [chars, parseChars_parts, inSpace, dif_pos nonempty]
      exact ⟨_, rfl⟩
    refine ⟨joined, parsed, ?_⟩
    rw [text_of_parse parsed, chars, if_pos (by simp)]

end GossipNames.Path
