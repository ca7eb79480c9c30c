import GossipNames.Path.Document
import GossipNames.Proofs.Path
import GossipNames.Proofs.RoundTrip

/-! Which texts stand for paths, where the parts of a path are found in its text, and what putting
texts behind a path does to them. -/

namespace GossipNames.Path

/-- A segment of a text, counted from the one that begins behind its first character. -/
def segment (text : String) (place : Nat) : String :=
  String.ofList ((((text.toList.drop 1).splitOn '/')[place]?).getD [])

/-- What is left of a text behind its first two segments and a character in front of each. -/
def afterRoot (text : String) : Bytes :=
  (Bytes.ofString text).drop
    (1 + (Bytes.ofString (segment text 0)).length + 1 + (Bytes.ofString (segment text 1)).length)

/-- Nothing, or a text that begins with a slash. -/
def Continues (suffix : String) : Prop :=
  suffix = "" ∨ ∃ rest, suffix = "/" ++ rest

/-- A root that stands alone. -/
def IsBare (text : String) : Prop :=
  text ≠ "" ∧ '/' ∉ text.toList

/-- A text in four parts: a label and a root with a slash in front of each, and what follows. -/
structure Splits (text label root remainder : String) : Prop where
  parts : text = "/" ++ label ++ "/" ++ root ++ remainder
  known : label = "ipfs" ∨ label = "ipns"
  nonempty : root ≠ ""
  plain : '/' ∉ root.toList
  continues : Continues remainder

theorem continues_iff {suffix : String} :
    Continues suffix ↔ ∀ char ∈ suffix.toList.head?, char = '/' := by
  constructor
  · rintro (rfl | ⟨rest, rfl⟩) char member
    · cases member
    · rw [String.toList_append] at member
      cases member
      rfl
  · intro absolute
    cases shape : suffix.toList with
    | nil => exact .inl (String.toList_eq_nil_iff.mp shape)
    | cons char rest =>
      obtain rfl : char = '/' := absolute char (by rw [shape]; rfl)
      refine .inr ⟨String.ofList rest, String.toList_inj.mp ?_⟩
      simp [shape]

theorem splits_text (path : Path) :
    Splits path.text path.space.label path.root path.remainder where
  parts := rfl
  known := by
    cases path.space with
    | ipfs => exact .inl rfl
    | ipns => exact .inr rfl
  nonempty := fun empty => path.rootNonempty (String.toList_eq_nil_iff.mpr empty)
  plain := path.rootPlain
  continues := continues_iff.mpr path.remainderAbsolute

/-- A text that splits is the text of a path. -/
theorem exists_of_splits {input label root remainder : String}
    (splits : Splits input label root remainder) : ∃ path : Path, path.text = input := by
  obtain ⟨space, rfl⟩ : ∃ space : Namespace, space.label = label := by
    rcases splits.known with rfl | rfl
    · exact ⟨.ipfs, rfl⟩
    · exact ⟨.ipns, rfl⟩
  refine ⟨{
    space, root, remainder
    rootNonempty := fun empty => splits.nonempty (String.toList_eq_nil_iff.mp empty)
    rootPlain := splits.plain
    remainderAbsolute := continues_iff.mp splits.continues }, splits.parts.symm⟩

theorem exists_parse_of_isBare {input : String} (bare : IsBare input) :
    ∃ path, parse input = .ok path := by
  obtain ⟨nonempty, plain⟩ := bare
  have whole : untilSlash input.toList = input.toList := by
    have alone : untilSlash (input.toList ++ []) = input.toList := untilSlash_append plain nofun
    rwa [List.append_nil] at alone
  have present : untilSlash input.toList ≠ [] := by
    rw [whole]
    exact fun empty => nonempty (String.toList_eq_nil_iff.mp empty)
  have chars : parseChars input.toList = inSpace .ipfs input.toList := by
    unfold parseChars
    split
    · rename_i empty
      exact absurd (String.toList_eq_nil_iff.mp empty) nonempty
    · rename_i shape
      exact absurd (by rw [shape]; exact List.mem_cons_self) plain
    · exact if_neg plain
  unfold parse
  rw [chars, inSpace, dif_pos present]
  exact ⟨_, rfl⟩

theorem isBare_of_parse {input : String} {path : Path} (parsed : parse input = .ok path)
    (relative : ¬ ['/'] <+: input.toList) : IsBare input := by
  unfold parse parseChars at parsed
  split at parsed
  · cases parsed
  · rename_i shape
    exact absurd (by rw [shape]; simp) relative
  · rename_i notEmpty _
    split at parsed
    · cases parsed
    · rename_i plain
      exact ⟨fun empty => notEmpty (String.toList_eq_nil_iff.mpr empty), plain⟩

theorem not_isBare_of_absolute {input : String} (absolute : ['/'] <+: input.toList) :
    ¬ IsBare input :=
  fun bare => bare.2 (absolute.subset List.mem_cons_self)

/-- What is read is the text of the path, or becomes it in the `ipfs` namespace. -/
theorem text_of_parse_cases {input : String} {path : Path} (parsed : parse input = .ok path) :
    (IsBare input ∧ path.text = "/ipfs/" ++ input) ∨ (¬ IsBare input ∧ path.text = input) := by
  have text := text_of_parse parsed
  by_cases absolute : ['/'] <+: input.toList
  · rw [if_pos absolute] at text
    exact .inr ⟨not_isBare_of_absolute absolute, text⟩
  · rw [if_neg absolute] at text
    exact .inl ⟨isBare_of_parse parsed absolute, text⟩

theorem exists_parse_iff {input : String} :
    (∃ path, parse input = .ok path)
      ↔ IsBare input ∨ ∃ label root remainder, Splits input label root remainder := by
  constructor
  · rintro ⟨path, parsed⟩
    rcases text_of_parse_cases parsed with ⟨bare, -⟩ | ⟨-, text⟩
    · exact .inl bare
    · exact .inr ⟨_, _, _, text ▸ path.splits_text⟩
  · rintro (bare | ⟨label, root, remainder, splits⟩)
    · exact exists_parse_of_isBare bare
    · obtain ⟨path, rfl⟩ := exists_of_splits splits
      exact ⟨path, parse_text path⟩

/-- Up to a slash, or to the end, there is one segment. -/
theorem splitOn_append {chars rest : List Char} (plain : '/' ∉ chars)
    (absolute : ∀ char ∈ rest.head?, char = '/') :
    ∃ others, (chars ++ rest).splitOn '/' = chars :: others := by
  cases rest with
  | nil => exact ⟨[], by rw [List.append_nil, List.splitOn_eq_singleton plain]⟩
  | cons char rest =>
    obtain rfl : char = '/' := absolute char rfl
    exact ⟨_, List.splitOn_append_cons_self_of_not_mem plain rest⟩

/-- The first segment is the label and the second the root. -/
theorem segment_text (path : Path) :
    segment path.text 0 = path.space.label ∧ segment path.text 1 = path.root := by
  have labelPlain : '/' ∉ path.space.label.toList := by cases path.space <;> decide
  obtain ⟨others, root⟩ := splitOn_append path.rootPlain path.remainderAbsolute
  have segments : (path.text.toList.drop 1).splitOn '/'
      = path.space.label.toList :: path.root.toList :: others := by
    rw [toList_text, List.drop_succ_cons, List.drop_zero,
      List.splitOn_append_cons_self_of_not_mem labelPlain, root]
  simp only [segment, segments, List.getElem?_cons_zero, List.getElem?_cons_succ,
    Option.getD_some, String.ofList_toList, and_self]

/-- Counted in bytes, what follows the two segments is the remainder. -/
theorem afterRoot_text (path : Path) : afterRoot path.text = Bytes.ofString path.remainder := by
  obtain ⟨label, root⟩ := segment_text path
  have slash : (Bytes.ofString "/").length = 1 := rfl
  have front : 1 + (Bytes.ofString path.space.label).length + 1 + (Bytes.ofString path.root).length
      = (Bytes.ofString ("/" ++ path.space.label ++ "/" ++ path.root)).length := by
    simp only [Bytes.ofString_append, List.length_append, slash]
  have whole : Bytes.ofString path.text
      = Bytes.ofString ("/" ++ path.space.label ++ "/" ++ path.root)
        ++ Bytes.ofString path.remainder := Bytes.ofString_append _ _
  rw [afterRoot, label, root, front, whole, List.drop_left]

theorem ofDocument_toDocument (path : Path) : ofDocument path.toDocument = .ok path := by
  rw [toDocument, ofDocument, parse_text]
  rfl

/-- Texts that are put behind a path one after the other are put there as one. -/
theorem exists_join_join (path : Path) (first second : String) :
    ∃ joined both, path.join first = .ok joined ∧ joined.text = path.text ++ first
      ∧ joined.join second = .ok both ∧ path.join (first ++ second) = .ok both := by
  obtain ⟨joined, once, text⟩ := exists_join path first
  obtain ⟨both, twice, whole⟩ := exists_join joined second
  obtain ⟨direct, atOnce, same⟩ := exists_join path (first ++ second)
  have agree : direct = both :=
    text_injective (by rw [same, whole, text, String.append_assoc])
  exact ⟨joined, both, once, text, twice, agree ▸ atOnce⟩

/-- The texts that are read as paths are bare roots and those in four parts, and nothing else. The
text of what is read has the four parts, as they are found again by its slashes and by its bytes; it
is the text that was read, but for a bare root, which becomes one in the `ipfs` namespace; and it is
read as the same path, from a document too. Whatever is put behind a path makes a path with both
texts, no matter in how many pieces; and when it begins with a slash or is empty, then only the
remainder changes, which it continues. -/
theorem parse_splits_join (input : String) :
    ((∃ path, parse input = .ok path)
        ↔ IsBare input ∨ ∃ label root remainder, Splits input label root remainder)
      ∧ ∀ path, parse input = .ok path →
        Splits path.text path.space.label path.root path.remainder
          ∧ segment path.text 0 = path.space.label
          ∧ segment path.text 1 = path.root
          ∧ afterRoot path.text = Bytes.ofString path.remainder
          ∧ ((IsBare input ∧ path.text = "/ipfs/" ++ input)
            ∨ (¬ IsBare input ∧ path.text = input))
          ∧ parse path.text = .ok path
          ∧ ofDocument path.toDocument = .ok path
          ∧ ∀ first second, ∃ joined both, path.join first = .ok joined
            ∧ joined.text = path.text ++ first
            ∧ joined.join second = .ok both
            ∧ path.join (first ++ second) = .ok both
            ∧ (Continues first → joined.space = path.space ∧ joined.root = path.root
              ∧ joined.remainder = path.remainder ++ first) := by
  refine ⟨exists_parse_iff, fun path parsed => ?_⟩
  obtain ⟨label, root⟩ := segment_text path
  refine ⟨path.splits_text, label, root, afterRoot_text path, text_of_parse_cases parsed,
    parse_text path, ofDocument_toDocument path, fun first second => ?_⟩
  obtain ⟨joined, both, once, text, twice, whole⟩ := exists_join_join path first second
  refine ⟨joined, both, once, text, twice, whole, fun continues => ?_⟩
  obtain ⟨same, continued, -, parts⟩ := join_ok path (continues_iff.mp continues)
  obtain rfl : joined = same := Except.ok.inj (once.symm.trans continued)
  exact parts

open NameRecord.Sample in
/-- A path with a segment behind its root, and a piece of a name that is put behind it. -/
theorem parse_splits_join_docs :
    parse "/ipns/k51/docs" = .ok target
      ∧ segment "/ipns/k51/docs" 1 = "k51"
      ∧ ∃ joined both, target.join "/" = .ok joined ∧ joined.remainder = "/docs/"
        ∧ joined.join "ü" = .ok both ∧ target.join "/ü" = .ok both := by
  have parsed : parse "/ipns/k51/docs" = .ok target := parse_text target
  obtain ⟨-, laws⟩ := parse_splits_join "/ipns/k51/docs"
  obtain ⟨-, -, root, -, -, -, -, joins⟩ := laws target parsed
  obtain ⟨joined, both, once, -, twice, whole, continued⟩ := joins "/" "ü"
  obtain ⟨-, -, remainder⟩ := continued (.inr ⟨"", rfl⟩)
  exact ⟨parsed, root, joined, both, once, remainder, twice, whole⟩

end GossipNames.Path
