import RemoteConsole.Proofs.Chunk.Encodings
import RemoteConsole.Proofs.Delivery.Laws

/-!
# Answers that show nothing

* `Chunk.IsBlank v`: the value has nothing to show: `null`, the empty text, envelopes of such
  values.
* `Chunk.IsHollow v`: an object of the class of envelopes in which there is no array of chunks where
  an envelope has it.
* `Chunk.IsSilent v`: the value is blank but for hollow objects in it. `isBlank_iff`: a blank value
  is a silent one that holds no hollow object.
* `Chunk.Holds v u`: the value is `u`, or an envelope with `u` in it at some depth.
* `Chunk.items_eq_nil_iff`: the standard converter makes no item of the silent values, and of no
  other value without a notice.
* `Delivery.shown_unless_silent`: what a display is passed of an answer, and of each value in it.
-/

namespace RemoteConsole

namespace Chunk

/-! ## Values in envelopes -/

/-- The object is of the class of envelopes, but it carries no items. -/
def IsHollow : Json → Prop
  | .object members => HasClass envelopePart members ∧ ∀ items, ¬ Carries members items
  | .null => False
  | .bool _ => False
  | .number _ => False
  | .string _ => False
  | .array _ => False

/-- The value is `null`, the empty text, or an envelope of blank values. -/
inductive IsBlank : Json → Prop
  | null : IsBlank .null
  | text : IsBlank (.string "")
  | envelope {members : List (String × Json)} {items : List Json}
      (hclass : HasClass envelopePart members) (hitems : Carries members items)
      (h : ∀ v ∈ items, IsBlank v) : IsBlank (.object members)

/-- The value is `null`, the empty text, hollow, or an envelope of silent values. -/
inductive IsSilent : Json → Prop
  | null : IsSilent .null
  | text : IsSilent (.string "")
  | hollow {v : Json} (h : IsHollow v) : IsSilent v
  | envelope {members : List (String × Json)} {items : List Json}
      (hclass : HasClass envelopePart members) (hitems : Carries members items)
      (h : ∀ v ∈ items, IsSilent v) : IsSilent (.object members)

/-- The second value is the first, or lies in an envelope that the first is, at any depth. -/
inductive Holds : Json → Json → Prop
  | self (v : Json) : Holds v v
  | item {members : List (String × Json)} {items : List Json} {v u : Json}
      (hclass : HasClass envelopePart members) (hitems : Carries members items) (hv : v ∈ items)
      (h : Holds v u) : Holds (.object members) u

variable {members : List (String × Json)} {items : List Json}

theorem sizeOf_of_lookup {key : String} {v : Json} (h : Json.lookup key members = some v) :
    sizeOf v < sizeOf members := by
  induction members with
  | nil => cases h
  | cons member rest ih =>
    obtain ⟨k, w⟩ := member
    rw [Json.lookup] at h
    simp only [List.cons.sizeOf_spec, Prod.mk.sizeOf_spec]
    split at h
    · cases h; omega
    · have := ih h; omega

/-- An item is smaller than the envelope that carries it. -/
theorem Carries.sizeOf_lt (h : Carries members items) {v : Json} (hv : v ∈ items) :
    sizeOf v < sizeOf (Json.object members) := by
  have hitem := List.sizeOf_lt_of_mem hv
  simp only [Json.object.sizeOf_spec]
  rcases h with h | ⟨wrapper, h, hlist⟩
  · have := sizeOf_of_lookup h
    simp only [Json.array.sizeOf_spec] at this
    omega
  · have hwrapper := sizeOf_of_lookup h
    have := sizeOf_of_lookup hlist
    simp only [Json.array.sizeOf_spec, Json.object.sizeOf_spec] at this hwrapper
    omega

/-- An envelope carries its items in one way. -/
theorem Carries.unique {others : List Json} (h : Carries members items)
    (h' : Carries members others) : items = others := by
  unfold Carries at h h'
  grind

theorem decodeAll_eq_map (items : List Json) : decodeAll items = items.map decode := by
  induction items with
  | nil => rw [decodeAll, List.map_nil]
  | cons v rest ih => rw [decodeAll, ih, List.map_cons]

theorem decode_of_carries (hclass : HasClass envelopePart members) (h : Carries members items) :
    decode (.object members) = .batch (items.map decode) := by
  rw [decode, (reserved?_eq_iff _ .envelope).mpr hclass]
  dsimp only
  rw [h.contents_eq, decodeAll_eq_map]

/-- A search among members of which none has the key finds nothing. -/
theorem search_of_none {key : String} {search : List (String × Json) → List Chunk}
    {found : Json → List Chunk} (hnil : search [] = [])
    (hcons : ∀ k v rest, search ((k, v) :: rest) = if k = key then found v else search rest)
    (h : Json.lookup key members = none) : search members = [] := by
  induction members with
  | nil => exact hnil
  | cons member rest ih =>
    obtain ⟨k, v⟩ := member
    rw [Json.lookup] at h
    rw [hcons]
    split at h
    · cases h
    · next hk => rw [if_neg hk]; exact ih h

/-- What is found in an object without an array of chunks. -/
theorem contents_of_hollow (h : ∀ items, ¬ Carries members items) : contents members = [] := by
  cases hchunks : Json.lookup "chunks" members with
  | none => exact search_of_none (by rw [contents]) (fun _ _ _ => by rw [contents]) hchunks
  | some v =>
    rw [contents_of_lookup hchunks]
    cases v with
    | null | bool | number | string => rw [chunksOf]
    | array items => exact absurd (.inl hchunks) (h items)
    | object wrapper =>
      rw [chunksOf]
      cases hlist : Json.lookup "list" wrapper with
      | none => exact search_of_none (by rw [wrapped]) (fun _ _ _ => by rw [wrapped]) hlist
      | some w =>
        rw [wrapped_of_lookup hlist]
        cases w with
        | array items => exact absurd (.inr ⟨wrapper, hchunks, hlist⟩) (h items)
        | null | bool | number | string | object => rw [arrayOf]

/-- A hollow object stands for a batch of no chunks. -/
theorem IsHollow.decode_eq {v : Json} (h : IsHollow v) : decode v = .batch [] := by
  cases v with
  | null | bool | number | string | array => exact h.elim
  | object members =>
    rw [decode, (reserved?_eq_iff _ .envelope).mpr h.1]
    dsimp only
    rw [contents_of_hollow h.2]

/-! ## Blank and silent -/

theorem IsBlank.isSilent {v : Json} (h : IsBlank v) : IsSilent v := by
  induction h with
  | null => exact .null
  | text => exact .text
  | envelope hclass hitems _ ih => exact .envelope hclass hitems ih

theorem IsBlank.not_hollow {v u : Json} (h : IsBlank v) (hu : Holds v u) : ¬ IsHollow u := by
  induction hu with
  | self v =>
    cases h with
    | null | text => exact id
    | envelope _ hitems _ => exact fun hhollow => hhollow.2 _ hitems
  | item _ hitems hv _ ih =>
    cases h with
    | envelope _ hothers h =>
      obtain rfl := hothers.unique hitems
      exact ih (h _ hv)

/-- Hollow objects are all that blank values and silent ones differ by. -/
theorem isBlank_iff {v : Json} : IsBlank v ↔ IsSilent v ∧ ∀ u, Holds v u → ¬ IsHollow u := by
  refine ⟨fun h => ⟨h.isSilent, fun _ => h.not_hollow⟩, ?_⟩
  rintro ⟨h, hnone⟩
  induction h with
  | null => exact .null
  | text => exact .text
  | hollow h => exact absurd h (hnone _ (.self _))
  | envelope hclass hitems _ ih =>
    exact .envelope hclass hitems fun v hv =>
      ih v hv fun u hu => hnone u (.item hclass hitems hv hu)

/-! ## Notices and items of a batch -/

/-- A batch has no notice if and only if none of its chunks has one. -/
theorem firstNotice?_eq_none_iff {cs : List Chunk} :
    firstNotice? cs = none ↔ ∀ c ∈ cs, c.notice? = none := by
  induction cs with
  | nil => simp [firstNotice?]
  | cons c rest ih =>
    rw [firstNotice?, List.forall_mem_cons, ← ih]
    cases c.notice? <;> simp

theorem items_batch (k : Converter.Rule) {cs : List Chunk} (h : firstNotice? cs = none) :
    k.items (.batch cs) = cs.flatMap k.items := by
  induction cs with
  | nil => rfl
  | cons c rest ih =>
    have hall := firstNotice?_eq_none_iff.mp h
    have hc : c.tips.findSome? flag? = none := (notice?_eq c).symm.trans (hall c (by simp))
    have hrest : firstNotice? rest = none :=
      firstNotice?_eq_none_iff.mpr fun d hd => hall d (List.mem_cons_of_mem _ hd)
    have hsplit : k.items (.batch (c :: rest)) = k.items c ++ k.items (.batch rest) := by
      unfold Converter.Rule.items
      rw [tips, tipsOf, contentsOf_append_of_none hc, List.filterMap_append]
      rfl
    rw [hsplit, ih hrest, List.flatMap_cons]

/-- Without a notice in it, an envelope comes to what its items come to, in their order. -/
theorem items_of_carries (k : Converter.Rule) (hclass : HasClass envelopePart members)
    (hitems : Carries members items) (hn : (decode (.object members)).notice? = none) :
    (∀ v ∈ items, (decode v).notice? = none) ∧
      k.items (decode (.object members)) = items.flatMap fun v => k.items (decode v) := by
  rw [decode_of_carries hclass hitems] at hn ⊢
  have hall := firstNotice?_eq_none_iff.mp hn
  refine ⟨fun v hv => hall _ (List.mem_map_of_mem hv), ?_⟩
  rw [items_batch k hn, List.flatMap_map]

/-- What a value in an answer without a notice comes to stands in what the answer comes to. -/
theorem Holds.items_within {v u : Json} (h : Holds v u) (k : Converter.Rule)
    (hn : (decode v).notice? = none) :
    (decode u).notice? = none ∧ k.items (decode u) <:+: k.items (decode v) := by
  induction h with
  | self v => exact ⟨hn, List.infix_rfl⟩
  | item hclass hitems hv _ ih =>
    obtain ⟨hnone, hflat⟩ := items_of_carries k hclass hitems hn
    obtain ⟨hu, hwithin⟩ := ih (hnone _ hv)
    obtain ⟨before, after, rfl⟩ := List.append_of_mem hv
    refine ⟨hu, hwithin.trans ?_⟩
    rw [hflat, List.flatMap_append, List.flatMap_cons, ← List.append_assoc]
    exact ⟨_, _, rfl⟩

/-- A value is silent if the standard converter makes nothing of it. The induction is on the size of
the value: the items of an envelope may be one object further down. -/
theorem isSilent_of_items (v : Json) (hn : (decode v).notice? = none)
    (h : Converter.standard.items (decode v) = []) : IsSilent v := by
  match v with
  | .null => exact .null
  | .bool _ | .number _ | .array _ =>
    rw [decode] at h
    cases h
  | .string s =>
    by_cases hs : s = ""
    · rw [hs]; exact .text
    · rw [decode, ofText, if_neg hs] at h
      cases h
  | .object members =>
    cases hreserved : reserved? members with
    | none =>
      rw [decode, hreserved] at h
      cases h
    | some r =>
      have hclass := (reserved?_eq_iff members r).mp hreserved
      cases r with
      | shutdown =>
        rw [decode, hreserved] at hn
        cases hn
      | envelope =>
        by_cases hcarries : ∃ items, Carries members items
        · obtain ⟨items, hitems⟩ := hcarries
          obtain ⟨hnone, hflat⟩ := items_of_carries Converter.standard hclass hitems hn
          rw [hflat, List.flatMap_eq_nil_iff] at h
          refine .envelope hclass hitems fun w hw => ?_
          have hsmaller := hitems.sizeOf_lt hw
          exact isSilent_of_items w (hnone w hw) (h w hw)
        · exact .hollow ⟨hclass, not_exists.mp hcarries⟩
termination_by sizeOf v
decreasing_by exact hsmaller

theorem IsSilent.items_eq {v : Json} (h : IsSilent v) (hn : (decode v).notice? = none) :
    Converter.standard.items (decode v) = [] := by
  induction h with
  | null => rfl
  | text => rfl
  | hollow h => rw [h.decode_eq]; rfl
  | envelope hclass hitems _ ih =>
    obtain ⟨hnone, hflat⟩ := items_of_carries Converter.standard hclass hitems hn
    rw [hflat, List.flatMap_eq_nil_iff]
    exact fun v hv => ih v hv (hnone v hv)

/-- Of values without a notice, the standard converter makes nothing of the silent ones alone. -/
theorem items_eq_nil_iff {v : Json} (hn : (decode v).notice? = none) :
    Converter.standard.items (decode v) = [] ↔ IsSilent v :=
  ⟨isSilent_of_items v hn, fun h => h.items_eq hn⟩

end Chunk

namespace Delivery

open Chunk

/-- The stream goes on after an answer without a notice, and the display is passed the items of the
answer. Among them, side by side, are those of each value in it; there are some unless the value is
silent, and with no hollow object in the value this is to say, unless it is blank. -/
theorem shown_unless_silent (s : Setting) (v : Json) (c : Chunk) (d : Delivery)
    (hk : s.converter = .standard) (hd : s.display.isSome = true) (hv : ofJson v = some c)
    (hn : c.notice? = none) :
    (process s (some c) d).2 = .flow .continue ∧
    (process s (some c) d).1.outlet.shown = d.outlet.shown ++ Converter.standard.items c ∧
    ∀ u, Holds v u →
      Converter.standard.items (decode u) <:+: Converter.standard.items c ∧
      (Converter.standard.items (decode u) = [] ↔ IsSilent u) ∧
      ((∀ w, Holds u w → ¬ IsHollow w) →
        (Converter.standard.items (decode u) = [] ↔ IsBlank u)) := by
  have hne : v ≠ .null := fun h => by rw [h] at hv; cases hv
  obtain rfl : decode v = c := Option.some.inj ((ofJson_eq_some v hne).symm.trans hv)
  have hgoes : Lifecycle.reasonOf (some (decode v)) = none := Option.map_eq_none_iff.mpr hn
  refine ⟨(process_continue_iff s _ d).mpr hgoes, ?_, fun u hu => ?_⟩
  · rw [process_shown, hk, Setting.passed, if_pos hd, Converter.Rule.itemsAfter_contentsIn]
    rfl
  · obtain ⟨hnone, hwithin⟩ := hu.items_within Converter.standard hn
    have hiff := items_eq_nil_iff hnone
    refine ⟨hwithin, hiff, fun hfull => ?_⟩
    rw [hiff, isBlank_iff]
    exact ⟨fun h => ⟨h, hfull⟩, And.left⟩

/-- An envelope that holds an empty text, an envelope with a wrapped array, and a hollow object. The
text two envelopes deep is shown, and nothing of the hollow object is. -/
theorem shown_unless_silent_nested :
    let s : Setting := ⟨⟨"app-1"⟩, .standard, some fun _ _ => .quiet, none⟩
    let hollow : Json := .object [("chunks", .nat 3), ("javaClass", .string "MultipleChunks")]
    let inner : Json := .object [("chunks", .object [("list", .array [.null, .string "late"])]),
      ("javaClass", .string "x.Console$MultipleChunks")]
    let v : Json := .object [("chunks", .array [.string "", inner, hollow]),
      ("javaClass", .string "x.MultipleChunks")]
    let c : Chunk := .batch [.empty, .batch [.empty, .text "late"], .batch []]
    let d := fresh (.ofDebounce 1000)
    s.converter = .standard ∧ s.display.isSome = true ∧ ofJson v = some c ∧ c.notice? = none ∧
    (process s (some c) d).1.outlet.shown = [.text "late"] ∧
    Converter.standard.items (decode inner) = [.text "late"] ∧ ¬ IsSilent inner ∧
    Converter.standard.items (decode hollow) = [] ∧ IsSilent hollow := by
  intro s hollow inner v c d
  have hnested : HasClass envelopePart
      [("chunks", .array [.string "", inner, hollow]), ("javaClass", .string "x.MultipleChunks")] :=
    ⟨_, rfl, .inr ⟨"x", ".", by decide, rfl⟩⟩
  obtain ⟨-, hshown, hall⟩ := shown_unless_silent s v c d rfl rfl (by rfl) (by rfl)
  have hitem : ∀ u ∈ [.string "", inner, hollow], Holds v u :=
    fun u hu => .item hnested (.inl rfl) hu (.self u)
  obtain ⟨-, hinner, -⟩ := hall inner (hitem _ (by simp))
  obtain ⟨-, hhollow, -⟩ := hall hollow (hitem _ (by simp))
  have hlate : Converter.standard.items (decode inner) = [.text "late"] := by rfl
  have hnothing : Converter.standard.items (decode hollow) = [] := by rfl
  have hloud : ¬ IsSilent inner := fun h => by cases hlate.symm.trans (hinner.mpr h)
  exact ⟨rfl, rfl, by rfl, rfl, hshown, hlate, hloud, hnothing, hhollow.mp hnothing⟩

/-- An object of the class of envelopes whose chunks are a text is not blank, and it has no notice.
A display is passed nothing of it. -/
theorem hollow_shows_nothing :
    let s : Setting := ⟨⟨"app-1"⟩, .standard, some fun _ _ => .quiet, none⟩
    let v : Json := .object [("chunks", .string "late"), ("javaClass", .string "x.MultipleChunks")]
    ∃ c, ofJson v = some c ∧ c.notice? = none ∧ ¬ IsBlank v ∧
      (process s (some c) (fresh (.ofDebounce 1000))).1.outlet.shown = [] := by
  intro s v
  have hhollow : IsHollow v := by
    refine ⟨⟨_, rfl, .inr ⟨"x", ".", by decide, rfl⟩⟩, ?_⟩
    rintro items (hchunks | ⟨_, hchunks, -⟩) <;> cases hchunks
  exact ⟨.batch [], by rfl, rfl, fun h => h.not_hollow (.self v) hhollow, rfl⟩

end Delivery

end RemoteConsole
