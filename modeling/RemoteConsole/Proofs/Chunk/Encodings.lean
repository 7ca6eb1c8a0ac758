import Mathlib.Data.List.TakeWhile
import RemoteConsole.Chunk.Wire

/-!
# The encodings of a chunk

* `Chunk.IsNamed part name`: a class name is the part itself, or a qualifier and the part.
  `lastSegment_eq_iff`, `reserved?_eq_iff`: the reserved classes are told by such a part.
* `Chunk.IsWellFormed`: the chunk holds no text or record that is written like another chunk.
  `wellFormed_decode`: a value stands for no other chunk.
* `Chunk.Encodes c v`: the value is one of those that the chunk can be written as, with a choice at
  every envelope in it. `Encodes.decode_eq`: each of them stands for the chunk.
* `Chunk.encode`: one of them, so that there is one for every chunk.
* `Chunk.ofJson_image`: what answers stand for, and which answers stand for it.
-/

namespace RemoteConsole.Chunk

/-! ## Reserved classes -/

/-- The last part of the name of the class of envelopes. -/
def envelopePart : String := "MultipleChunks"

/-- The last part of the name of the class of shutdown notices. -/
def noticePart : String := "ShutdownNotice"

/-- The name is the part, by itself or behind a qualifier. -/
def IsNamed (part name : String) : Prop :=
  name = part ∨ ∃ qualifier, ∃ separator ∈ [".", "$"], name = qualifier ++ separator ++ part

/-- The members say that the object is of a class with this last part. -/
def HasClass (part : String) (members : List (String × Json)) : Prop :=
  ∃ name, Json.lookup classKey members = some (.string name) ∧ IsNamed part name

/-- The class that a last part is reserved for. -/
def Reserved.part : Reserved → String
  | .envelope => envelopePart
  | .shutdown => noticePart

/-- The beginning of a list up to an element, if there is such an element. -/
theorem takeWhile_eq_iff {p : Char → Bool} {xs : List Char} (hxs : ∀ x ∈ xs, p x = true)
    (l : List Char) :
    l.takeWhile p = xs ↔ l = xs ∨ ∃ c rest, p c = false ∧ l = xs ++ c :: rest := by
  constructor
  · rintro rfl
    have hcut := l.takeWhile_append_dropWhile (p := p)
    cases hdrop : l.dropWhile p with
    | nil =>
      rw [hdrop, List.append_nil] at hcut
      exact .inl hcut.symm
    | cons c rest =>
      have hne : l.dropWhile p ≠ [] := by rw [hdrop]; exact List.cons_ne_nil c rest
      have hc := List.head_dropWhile_not p hne
      simp only [hdrop, List.head_cons] at hc
      rw [hdrop] at hcut
      exact .inr ⟨c, rest, hc, hcut.symm⟩
  · rintro (rfl | ⟨c, rest, hc, rfl⟩)
    · exact List.takeWhile_eq_self_iff.mpr hxs
    · rw [List.takeWhile_append_of_pos hxs, List.takeWhile_cons, hc]
      exact List.append_nil xs

/-- For a part without points and dollar signs, the names with this last segment are those that are
named by it. -/
theorem lastSegment_eq_iff {part : String}
    (h : ∀ c ∈ part.toList, (c ≠ '.' && c ≠ '$') = true) (name : String) :
    lastSegment name = part ↔ IsNamed part name := by
  have hback : ∀ c ∈ part.toList.reverse, (c ≠ '.' && c ≠ '$') = true :=
    fun c hc => h c (List.mem_reverse.mp hc)
  have hsegment : lastSegment name = part ↔
      name.toList.reverse.takeWhile (fun c => c ≠ '.' && c ≠ '$') = part.toList.reverse := by
    rw [lastSegment, ← String.toList_inj, String.toList_ofList, List.reverse_eq_iff]
  rw [hsegment, takeWhile_eq_iff hback, List.reverse_inj, String.toList_inj]
  refine or_congr_right ⟨?_, ?_⟩
  · rintro ⟨c, rest, hc, hname⟩
    have hname : name = String.ofList rest.reverse ++ String.singleton c ++ part := by
      rw [← String.toList_inj, ← List.reverse_inj, hname]
      simp
    have hseparator : String.singleton c ∈ [".", "$"] := by
      have hor : c = '.' ∨ c = '$' := by
        by_contra hneither
        simp_all
      rcases hor with rfl | rfl <;> decide
    exact ⟨_, _, hseparator, hname⟩
  · rintro ⟨qualifier, separator, hseparator, rfl⟩
    have hsingle : ∃ c, (c ≠ '.' && c ≠ '$') = false ∧ separator = String.singleton c := by
      simp only [List.mem_cons, List.not_mem_nil, or_false] at hseparator
      rcases hseparator with rfl | rfl
      · exact ⟨'.', rfl, rfl⟩
      · exact ⟨'$', rfl, rfl⟩
    obtain ⟨c, hc, rfl⟩ := hsingle
    exact ⟨c, qualifier.toList.reverse, hc, by simp⟩

/-- The reserved parts hold no separator. -/
theorem part_plain (r : Reserved) : ∀ c ∈ r.part.toList, (c ≠ '.' && c ≠ '$') = true := by
  have hall : (r.part.toList.all fun c => c ≠ '.' && c ≠ '$') = true := by cases r <;> decide
  exact List.all_eq_true.mp hall

theorem ofClass_eq_iff (name : String) (r : Reserved) :
    Reserved.ofClass name = some r ↔ IsNamed r.part name := by
  have hsegment : lastSegment name = r.part ↔ IsNamed r.part name :=
    lastSegment_eq_iff (part_plain r) name
  rw [← hsegment]
  unfold Reserved.ofClass
  cases r with
  | envelope => grind [Reserved.part, envelopePart]
  | shutdown => grind [Reserved.part, noticePart]

/-- An object is of a reserved class if its class name says so. -/
theorem reserved?_eq_iff (members : List (String × Json)) (r : Reserved) :
    reserved? members = some r ↔ HasClass r.part members := by
  unfold reserved? HasClass
  rw [Option.bind_eq_some_iff]
  constructor
  · rintro ⟨name, hname, hr⟩
    obtain ⟨v, hv, hstring⟩ := Option.bind_eq_some_iff.mp hname
    cases v with
    | string =>
      cases hstring
      exact ⟨name, hv, (ofClass_eq_iff name r).mp hr⟩
    | null | bool | number | array | object => cases hstring
  · rintro ⟨name, hname, hr⟩
    exact ⟨name, by rw [hname]; rfl, (ofClass_eq_iff name r).mpr hr⟩

theorem reserved?_eq_none_iff (members : List (String × Json)) :
    reserved? members = none ↔ ∀ r : Reserved, ¬ HasClass r.part members := by
  simp only [← reserved?_eq_iff, Option.eq_none_iff_forall_ne_some, ne_eq]

/-! ## Well-formed chunks -/

/-- The value is written like no other chunk than a record. -/
def IsRecord : Json → Prop
  | .null => False
  | .string _ => False
  | .object members => ¬ HasClass envelopePart members ∧ ¬ HasClass noticePart members
  | .array _ => True
  | .bool _ => True
  | .number _ => True

/-- No text of the chunk is empty, and its records are written like no other chunk. -/
inductive IsWellFormed : Chunk → Prop
  | empty : IsWellFormed .empty
  | text {s : String} (h : s ≠ "") : IsWellFormed (.text s)
  | record {v : Json} (h : IsRecord v) : IsWellFormed (.record v)
  | batch {chunks : List Chunk} (h : ∀ c ∈ chunks, IsWellFormed c) : IsWellFormed (.batch chunks)
  | shutdown (clean : Bool) : IsWellFormed (.shutdown clean)

theorem wellFormed_ofText (s : String) : IsWellFormed (ofText s) := by
  unfold ofText
  split
  · exact .empty
  · next h => exact .text h

mutual

/-- Every value stands for a well-formed chunk. -/
theorem wellFormed_decode (v : Json) : IsWellFormed (decode v) := by
  cases v with
  | null => exact .empty
  | bool | number | array => exact .record trivial
  | string s => exact wellFormed_ofText s
  | object members =>
    rw [decode]
    cases hreserved : reserved? members with
    | none =>
      have hneither := (reserved?_eq_none_iff members).mp hreserved
      exact .record ⟨hneither .envelope, hneither .shutdown⟩
    | some r =>
      cases r with
      | envelope => exact .batch (wellFormed_contents members)
      | shutdown => exact .shutdown _

theorem wellFormed_contents (members : List (String × Json)) :
    ∀ c ∈ contents members, IsWellFormed c := by
  match members with
  | [] => exact nofun
  | (key, v) :: rest =>
    rw [contents]
    split
    · exact wellFormed_chunksOf v
    · exact wellFormed_contents rest

theorem wellFormed_chunksOf (v : Json) : ∀ c ∈ chunksOf v, IsWellFormed c := by
  cases v with
  | array items => exact wellFormed_decodeAll items
  | object members => exact wellFormed_wrapped members
  | null | bool | number | string => exact nofun

theorem wellFormed_wrapped (members : List (String × Json)) :
    ∀ c ∈ wrapped members, IsWellFormed c := by
  match members with
  | [] => exact nofun
  | (key, v) :: rest =>
    rw [wrapped]
    split
    · exact wellFormed_arrayOf v
    · exact wellFormed_wrapped rest

theorem wellFormed_arrayOf (v : Json) : ∀ c ∈ arrayOf v, IsWellFormed c := by
  cases v with
  | array items => exact wellFormed_decodeAll items
  | object | null | bool | number | string => exact nofun

theorem wellFormed_decodeAll (items : List Json) : ∀ c ∈ decodeAll items, IsWellFormed c := by
  match items with
  | [] => exact nofun
  | v :: rest =>
    rw [decodeAll]
    exact List.forall_mem_cons.mpr ⟨wellFormed_decode v, wellFormed_decodeAll rest⟩

end

/-! ## Encodings -/

/-- The members of an envelope hold these items, as an array or as an object that wraps one. -/
def Carries (members : List (String × Json)) (items : List Json) : Prop :=
  Json.lookup "chunks" members = some (.array items) ∨
    ∃ wrapper, Json.lookup "chunks" members = some (.object wrapper) ∧
      Json.lookup "list" wrapper = some (.array items)

mutual

/-- The value is written for the chunk. Of an object only the members count that are named here. -/
inductive Encodes : Chunk → Json → Prop
  | empty : Encodes .empty (.string "")
  | text (s : String) : Encodes (.text s) (.string s)
  | record (v : Json) : Encodes (.record v) v
  | shutdown {members : List (String × Json)} {clean : Bool} (hclass : HasClass noticePart members)
      (hclean : Json.lookup "clean" members = some (.bool clean)) :
      Encodes (.shutdown clean) (.object members)
  | batch {members : List (String × Json)} {items : List Json} {chunks : List Chunk}
      (hclass : HasClass envelopePart members) (hitems : Carries members items)
      (h : EncodesAll chunks items) : Encodes (.batch chunks) (.object members)

/-- The items are written for the chunks, one for each. Among them an empty chunk may be `null`. -/
inductive EncodesAll : List Chunk → List Json → Prop
  | nil : EncodesAll [] []
  | cons {c : Chunk} {v : Json} {chunks : List Chunk} {items : List Json} (h : Encodes c v)
      (hrest : EncodesAll chunks items) : EncodesAll (c :: chunks) (v :: items)
  | null {chunks : List Chunk} {items : List Json} (hrest : EncodesAll chunks items) :
      EncodesAll (.empty :: chunks) (.null :: items)

end

/-- A search for a key among members comes to the member that a lookup finds. -/
theorem search_of_lookup {key : String} {search : List (String × Json) → List Chunk}
    {found : Json → List Chunk}
    (hcons : ∀ k v rest, search ((k, v) :: rest) = if k = key then found v else search rest)
    {members : List (String × Json)} {v : Json} (h : Json.lookup key members = some v) :
    search members = found v := by
  induction members with
  | nil => cases h
  | cons member rest ih =>
    obtain ⟨k, w⟩ := member
    rw [Json.lookup] at h
    rw [hcons]
    by_cases hk : k = key
    · rw [if_pos hk] at h ⊢
      cases h
      rfl
    · rw [if_neg hk] at h ⊢
      exact ih h

theorem contents_of_lookup {members : List (String × Json)} {v : Json}
    (h : Json.lookup "chunks" members = some v) : contents members = chunksOf v :=
  search_of_lookup (fun _ _ _ => by rw [contents]) h

theorem wrapped_of_lookup {members : List (String × Json)} {v : Json}
    (h : Json.lookup "list" members = some v) : wrapped members = arrayOf v :=
  search_of_lookup (fun _ _ _ => by rw [wrapped]) h

theorem Carries.contents_eq {members : List (String × Json)} {items : List Json}
    (h : Carries members items) : contents members = decodeAll items := by
  rcases h with h | ⟨wrapper, h, hlist⟩
  · rw [contents_of_lookup h, chunksOf]
  · rw [contents_of_lookup h, chunksOf, wrapped_of_lookup hlist, arrayOf]

theorem IsRecord.decode_eq {v : Json} (h : IsRecord v) : decode v = .record v := by
  cases v with
  | null | string => exact absurd h id
  | bool | number | array => rw [decode]
  | object members =>
    have hnone : reserved? members = none :=
      (reserved?_eq_none_iff members).mpr fun r => by
        cases r with
        | envelope => exact h.1
        | shutdown => exact h.2
    rw [decode, hnone]

mutual

/-- A value that is written for a well-formed chunk stands for it. -/
theorem Encodes.decode_eq {c : Chunk} {v : Json} (h : Encodes c v) (hc : c.IsWellFormed) :
    decode v = c := by
  cases h with
  | empty => rw [decode, ofText, if_pos rfl]
  | text =>
    cases hc with
    | text hne => rw [decode, ofText, if_neg hne]
  | record =>
    cases hc with
    | record hv => exact hv.decode_eq
  | shutdown hclass hclean =>
    rw [decode, (reserved?_eq_iff _ .shutdown).mpr hclass]
    dsimp only
    rw [isClean, hclean]
    rfl
  | batch hclass hitems hall =>
    cases hc with
    | batch hchunks =>
      rw [decode, (reserved?_eq_iff _ .envelope).mpr hclass]
      dsimp only
      rw [hitems.contents_eq, hall.decodeAll_eq hchunks]

theorem EncodesAll.decodeAll_eq {chunks : List Chunk} {items : List Json}
    (h : EncodesAll chunks items) (hc : ∀ c ∈ chunks, c.IsWellFormed) :
    decodeAll items = chunks := by
  cases h with
  | nil => rw [decodeAll]
  | cons hfirst hrest =>
    obtain ⟨hwell, hwells⟩ := List.forall_mem_cons.mp hc
    rw [decodeAll, hfirst.decode_eq hwell, hrest.decodeAll_eq hwells]
  | null hrest =>
    rw [decodeAll, decode, hrest.decodeAll_eq (List.forall_mem_cons.mp hc).2]

end

/-! ## An encoding of every chunk -/

mutual

/-- The chunk as it is written with no more than what it takes. -/
def encode : Chunk → Json
  | .empty => .string ""
  | .text s => .string s
  | .record v => v
  | .batch chunks =>
    .object [(classKey, .string envelopePart), ("chunks", .array (encodeAll chunks))]
  | .shutdown clean => .object [(classKey, .string noticePart), ("clean", .bool clean)]

/-- The chunks as they are written in an envelope. -/
def encodeAll : List Chunk → List Json
  | [] => []
  | c :: rest => encode c :: encodeAll rest

end

mutual

theorem encodes_encode (c : Chunk) : Encodes c (encode c) := by
  cases c with
  | empty => exact .empty
  | text s => exact .text s
  | record v => exact .record v
  | batch chunks => exact .batch ⟨_, rfl, .inl rfl⟩ (.inl rfl) (encodesAll_encodeAll chunks)
  | shutdown clean => exact .shutdown ⟨_, rfl, .inl rfl⟩ rfl

theorem encodesAll_encodeAll (chunks : List Chunk) : EncodesAll chunks (encodeAll chunks) := by
  match chunks with
  | [] => exact .nil
  | c :: rest => exact .cons (encodes_encode c) (encodesAll_encodeAll rest)

end

/-! ## Main statement -/

theorem ofJson_eq_none_iff (v : Json) : ofJson v = none ↔ v = .null := by
  cases v <;> simp [ofJson]

theorem ofJson_eq_some (v : Json) (h : v ≠ .null) : ofJson v = some (decode v) := by
  cases v with
  | null => exact absurd rfl h
  | bool | number | string | array | object => rfl

/-- What is written for a well-formed chunk is not `null`. -/
theorem Encodes.ne_null {c : Chunk} {v : Json} (h : Encodes c v) (hc : c.IsWellFormed) :
    v ≠ .null := by
  rintro rfl
  cases h with
  | record =>
    cases hc with
    | record hv => exact hv

/-- Only `null` stands for no chunk, and any other value for a well-formed one. A well-formed chunk
is what each of its encodings stands for, and there is an answer for each. -/
theorem ofJson_image (v : Json) (c : Chunk) :
    (ofJson v = none ↔ v = .null) ∧
    (v ≠ .null → ∃ d, ofJson v = some d ∧ d.IsWellFormed) ∧
    (c.IsWellFormed → Encodes c v → ofJson v = some c) ∧
    (c.IsWellFormed ↔ ∃ w, ofJson w = some c) := by
  have hback : ∀ w, c.IsWellFormed → Encodes c w → ofJson w = some c := by
    intro w hc h
    rw [ofJson_eq_some w (h.ne_null hc), h.decode_eq hc]
  refine ⟨ofJson_eq_none_iff v, fun hne => ⟨decode v, ofJson_eq_some v hne, wellFormed_decode v⟩,
    hback v, fun hc => ⟨encode c, hback _ hc (encodes_encode c)⟩, ?_⟩
  rintro ⟨w, hw⟩
  have hne : w ≠ .null := by
    rintro rfl
    cases hw
  cases (ofJson_eq_some w hne).symm.trans hw
  exact wellFormed_decode w

/-- An envelope in an envelope, each with a class of its own: one wraps its array and holds a `null`,
and a member that no envelope knows is left aside. -/
theorem ofJson_image_nested :
    ofJson (.object [("javaClass", .string "org.Console$MultipleChunks"), ("chunks", .object
      [("size", .nat 2), ("list", .array [.null, .object
        [("chunks", .array [.string "bye", .object
            [("clean", .bool true), ("javaClass", .string "x.ShutdownNotice")]]),
          ("javaClass", .string "MultipleChunks")]])])]) =
      some (.batch [.empty, .batch [.text "bye", .shutdown true]]) := by
  refine (ofJson_image _ _).2.2.1 (.batch ?_) ?_
  · have hinner : IsWellFormed (.batch [.text "bye", .shutdown true]) :=
      .batch (List.forall_mem_cons.mpr ⟨.text (by decide),
        List.forall_mem_singleton.mpr (.shutdown true)⟩)
    exact List.forall_mem_cons.mpr ⟨.empty, List.forall_mem_singleton.mpr hinner⟩
  · have hnotice : Encodes (.shutdown true)
        (.object [("clean", .bool true), ("javaClass", .string "x.ShutdownNotice")]) :=
      .shutdown ⟨_, rfl, .inr ⟨"x", ".", by decide, rfl⟩⟩ rfl
    have hinner : Encodes (.batch [.text "bye", .shutdown true]) (.object
        [("chunks", .array [.string "bye", .object
            [("clean", .bool true), ("javaClass", .string "x.ShutdownNotice")]]),
          ("javaClass", .string "MultipleChunks")]) :=
      .batch ⟨_, rfl, .inl rfl⟩ (.inl rfl) (.cons (.text "bye") (.cons hnotice .nil))
    exact .batch ⟨_, rfl, .inr ⟨"org.Console", "$", by decide, rfl⟩⟩
      (.inr ⟨_, rfl, rfl⟩) (.null (.cons hinner .nil))

end RemoteConsole.Chunk
