import RemoteConsole.Proofs.Delivery.Laws

/-!
# What deliveries write to the log

Every leaf of a chunk that is delivered has its own part of the log, in the order of the leaves.

* `ServerException.Describes`: a record describes an exception. `ofJson?_eq_some_iff`: this is what
  the recognition of exceptions comes to. `Chunk.Clears`: a record that only clears the display.
* `LeafLog`: the part of the log that is about a leaf. `Setting.Sequel`: what can be in it after the
  exception that the leaf describes. `Setting.Logged`: the part is as it should be.
* `Setting.dispatch_logs`, `dispatchAll_logs`: one leaf, and leaves in a row.
* `Setting.Logged.records_eq`, `Logged.one_record`: what the log holds when there is no display, and
  what it does with the standard converter.
* `Delivery.logs_of_leaves`: a delivery writes the parts of its leaves, and nothing else.
-/

namespace RemoteConsole

/-! ## Exceptions -/

namespace ServerException

/-- A record describes an exception: it is an object with all the members of one. The exception has
the class that is given as text, or the JSON that stands there instead, and the message that is given
as text. -/
def Describes (v : Json) (e : ServerException) : Prop :=
  ∃ members cls, v = .object members ∧
    (∀ key ∈ ["cause", "javaClass", "message", "stackTrace"],
      (Json.lookup key members).isSome = true) ∧
    Json.lookup "javaClass" members = some cls ∧
    (cls = .string e.className ∨ (∀ text, cls ≠ .string text) ∧ e.className = cls.compact) ∧
    ∀ text, e.message = some text ↔ Json.lookup "message" members = some (.string text)

theorem eq_classText_iff {name : String} {cls : Json} :
    name = classText cls ↔
      cls = .string name ∨ (∀ text, cls ≠ .string text) ∧ name = cls.compact := by
  cases cls with
  | string text => simp [classText, eq_comm]
  | null | bool | number | array | object => simp [classText]

/-- The exception with a class and a message as they are read from the members. -/
theorem eq_mk_iff {e : ServerException} {cls : Json} {message : Option Json} :
    ⟨classText cls, message.bind Json.asString?⟩ = e ↔
      (cls = .string e.className ∨ (∀ text, cls ≠ .string text) ∧ e.className = cls.compact) ∧
        ∀ text, e.message = some text ↔ message = some (.string text) := by
  have hmessage : ∀ text, message.bind Json.asString? = some text ↔
      message = some (.string text) := by
    simp [Option.bind_eq_some_iff, Json.asString?_eq_some_iff]
  obtain ⟨name, said⟩ := e
  simp only [mk.injEq, ← eq_classText_iff, ← hmessage, ← Option.ext_iff]
  exact and_congr eq_comm eq_comm

theorem ofJson?_eq_some_iff {v : Json} {e : ServerException} :
    ofJson? v = some e ↔ Describes v e := by
  cases v with
  | object members =>
    have hkeys : (keys.all fun key => (Json.lookup key members).isSome) = true ↔
        ∀ key ∈ keys, (Json.lookup key members).isSome = true := List.all_eq_true
    rw [ofJson?, Describes]
    by_cases hall : (keys.all fun key => (Json.lookup key members).isSome) = true
    · rw [if_pos hall, Option.map_eq_some_iff]
      constructor
      · rintro ⟨cls, hcls, he⟩
        exact ⟨members, cls, rfl, hkeys.mp hall, hcls, eq_mk_iff.mp he⟩
      · rintro ⟨_, cls, ⟨⟩, -, hcls, he⟩
        exact ⟨cls, hcls, eq_mk_iff.mpr he⟩
    · rw [if_neg hall]
      constructor
      · exact nofun
      · rintro ⟨_, cls, ⟨⟩, h, -⟩
        exact absurd (hkeys.mpr h) hall
  | null | bool | number | string | array => exact ⟨nofun, nofun⟩

end ServerException

/-- The chunk is a record that only asks for the display to be cleared. -/
def Chunk.Clears (c : Chunk) : Prop :=
  ∃ members, c = .record (.object members) ∧
    (∀ e, ¬ ServerException.Describes (.object members) e) ∧
    Json.lookup "_" members = some (.string "ClearConsole")

theorem Converter.asksToClear_iff {v : Json} : asksToClear v = true ↔
    ∃ members, v = .object members ∧ Json.lookup "_" members = some (.string "ClearConsole") := by
  cases v with
  | object members =>
    simp [asksToClear, Json.get?, Option.bind_eq_some_iff, Json.asString?_eq_some_iff]
  | null | bool | number | string | array => simp [asksToClear, Json.get?]

/-! ## The part of a leaf -/

/-- The part of the log that is about a leaf: the exception that it describes, what the display
writes while it shows the item, and what is written in the end. -/
structure LeafLog where
  leaf : Chunk
  exception : Option Log.Record
  rendered : List Log.Record
  outcome : Option Log.Record

/-- The records of the part, in order. -/
def LeafLog.records (l : LeafLog) : List Log.Record :=
  l.exception.toList ++ (l.rendered ++ l.outcome.toList)

namespace Setting

variable (s : Setting)

/-- What is written about a leaf after its exception: by the display, and then by the delivery
itself. The chunks `past` have been converted before, and the items `shown` have been passed to the
display. -/
inductive Sequel (past : List Chunk) (shown : List Item) (c : Chunk) :
    List Log.Record → Option Log.Record → Prop
  | nothing (h : s.converter.convert past c = .nothing) : Sequel past shown c [] none
  | failed {e : ConvertError} (h : s.converter.convert past c = .failed e) :
      Sequel past shown c [] (Log.Record.of .warn target "chunk converter failed; skipping chunk"
        [("session", s.session.value), ("kind", c.sort), ("error", e.text)])
  | panicked {p : Panic} (h : s.converter.convert past c = .panicked p) :
      Sequel past shown c [] (Log.Record.of .warn target "chunk converter panicked; skipping chunk"
        [("session", s.session.value), ("kind", c.sort), ("panic", p.text)])
  | text {t : String} (h : s.converter.convert past c = .item (.text t)) (hd : s.display = none) :
      Sequel past shown c []
        (Log.Record.of .info sinkTarget (Text.trimEnd t) [("session", s.session.value)])
  | dump {t : String} (h : s.converter.convert past c = .item (.dump t)) (hd : s.display = none) :
      Sequel past shown c [] (Log.Record.of .debug sinkTarget t [("session", s.session.value)])
  | exception {name : String} {message : Option String}
      (h : s.converter.convert past c = .item (.exception name message)) (hd : s.display = none) :
      Sequel past shown c [] none
  | clear (h : s.converter.convert past c = .item .clear) (hd : s.display = none) :
      Sequel past shown c [] none
  | shown {item : Item} {display : Display} (h : s.converter.convert past c = .item item)
      (hd : s.display = some display) (hp : (display shown item).panic = none) :
      Sequel past shown c (display shown item).records none
  | broken {item : Item} {display : Display} {p : Panic}
      (h : s.converter.convert past c = .item item) (hd : s.display = some display)
      (hp : (display shown item).panic = some p) :
      Sequel past shown c (display shown item).records
        (Log.Record.of .warn target "render target panicked; item dropped"
          [("session", s.session.value), ("panic", p.text)])

/-- The part of the log is as it should be: with the exception if and only if the leaf describes
one. -/
structure Logged (past : List Chunk) (shown : List Item) (l : LeafLog) : Prop where
  exception : ∀ r, l.exception = some r ↔
    ∃ v e, l.leaf = .record v ∧ ServerException.Describes v e ∧
      r = .of .error target "remote exception"
        [("session", s.session.value), ("class", e.className), ("message", e.message.getD "")]
  sequel : s.Sequel past shown l.leaf l.rendered l.outcome

/-- A chunk has a record about an exception if and only if it describes the exception. -/
theorem head?_exceptionRecords_eq_some_iff {c : Chunk} {r : Log.Record} :
    (s.exceptionRecords c).head? = some r ↔
      ∃ v e, c = .record v ∧ ServerException.Describes v e ∧
        r = .of .error target "remote exception"
          [("session", s.session.value), ("class", e.className),
            ("message", e.message.getD "")] := by
  cases c with
  | record v =>
    rw [exceptionRecords]
    constructor
    · intro h
      cases he : ServerException.ofJson? v with
      | none => rw [he] at h; cases h
      | some e =>
        rw [he] at h
        exact ⟨v, e, rfl, ServerException.ofJson?_eq_some_iff.mp he, (Option.some.inj h).symm⟩
    · rintro ⟨_, e, ⟨⟩, he, rfl⟩
      rw [ServerException.ofJson?_eq_some_iff.mpr he]
      rfl
  | empty | text | batch | shutdown => exact ⟨nofun, nofun⟩

theorem toList_head?_exceptionRecords (c : Chunk) :
    (s.exceptionRecords c).head?.toList = s.exceptionRecords c := by
  cases c with
  | record v => rw [exceptionRecords]; cases ServerException.ofJson? v <;> rfl
  | empty | text | batch | shutdown => rfl

/-- What is written about an item. -/
theorem present_sequel {past : List Chunk} {c : Chunk} {item : Item}
    (h : s.converter.convert past c = .item item) (o : Outlet) :
    ∃ rendered outcome, s.Sequel past o.shown c rendered outcome ∧
      (s.present item o).records = o.records ++ (rendered ++ outcome.toList) := by
  unfold present
  cases hd : s.display with
  | none =>
    cases item with
    | text t => exact ⟨_, _, .text h hd, rfl⟩
    | dump t => exact ⟨_, _, .dump h hd, rfl⟩
    | exception => exact ⟨_, _, .exception h hd, rfl⟩
    | clear => exact ⟨_, _, .clear h hd, rfl⟩
  | some display =>
    dsimp only
    cases hp : (display o.shown item).panic with
    | none =>
      refine ⟨_, _, .shown h hd hp, ?_⟩
      exact congrArg (o.records ++ ·) (List.append_nil _).symm
    | some p => exact ⟨_, _, .broken h hd hp, List.append_assoc _ _ _⟩

/-- What is written about a leaf. -/
theorem dispatch_logs (c : Chunk) (o : Outlet) :
    ∃ l : LeafLog, l.leaf = c ∧ s.Logged o.converted o.shown l ∧
      (s.dispatch c o).records = o.records ++ l.records := by
  have hsequel : ∃ rendered outcome, s.Sequel o.converted o.shown c rendered outcome ∧
      (s.dispatch c o).records =
        (o.records ++ s.exceptionRecords c) ++ (rendered ++ outcome.toList) := by
    unfold dispatch
    dsimp only
    cases hc : s.converter.convert o.converted c with
    | item item =>
      exact s.present_sequel hc
        ({ o with converted := o.converted ++ [c] }.log (s.exceptionRecords c))
    | nothing => exact ⟨_, _, .nothing hc, (List.append_nil _).symm⟩
    | failed e => exact ⟨_, _, .failed hc, rfl⟩
    | panicked p => exact ⟨_, _, .panicked hc, rfl⟩
  obtain ⟨rendered, outcome, hseq, hrecords⟩ := hsequel
  refine ⟨⟨c, (s.exceptionRecords c).head?, rendered, outcome⟩, rfl,
    ⟨fun _ => s.head?_exceptionRecords_eq_some_iff, hseq⟩, ?_⟩
  rw [hrecords, LeafLog.records, toList_head?_exceptionRecords, List.append_assoc]

/-- What is written about leaves in a row: the parts one after the other, each with the leaves before
it converted and their items shown. -/
theorem dispatchAll_logs (cs : List Chunk) (o : Outlet) :
    ∃ logs : List LeafLog, logs.map LeafLog.leaf = cs ∧
      (s.dispatchAll cs o).records = o.records ++ logs.flatMap LeafLog.records ∧
      ∀ earlier l later, logs = earlier ++ l :: later →
        s.Logged (o.converted ++ earlier.map LeafLog.leaf)
          (o.shown ++
            s.passed (s.converter.itemsAfter o.converted (earlier.map LeafLog.leaf))) l := by
  induction cs generalizing o with
  | nil =>
    refine ⟨[], rfl, (List.append_nil _).symm, fun earlier _ _ h => ?_⟩
    cases earlier <;> cases h
  | cons c cs ih =>
    obtain ⟨l, rfl, hlogged, hrecords⟩ := s.dispatch_logs c o
    obtain ⟨logs, rfl, hrest, hlogs⟩ := ih (s.dispatch l.leaf o)
    refine ⟨l :: logs, rfl, ?_, fun earlier l' later h => ?_⟩
    · rw [List.flatMap_cons, ← List.append_assoc, ← hrecords]
      exact hrest
    · cases earlier with
      | nil =>
        cases h
        rw [List.map_nil, Converter.itemsAfter, s.passed_nil, List.append_nil, List.append_nil]
        exact hlogged
      | cons first earlier =>
        obtain ⟨rfl, hsplit⟩ := List.cons.inj h
        have hlater := hlogs earlier l' later hsplit
        rwa [s.dispatch_converted, s.dispatch_shown, List.append_assoc, List.append_assoc,
          ← s.passed_append] at hlater

/-! ## The log as the only outlet -/

variable {s}

theorem Sequel.eq_sinkRecords {past : List Chunk} {shown : List Item} {c : Chunk}
    {rendered : List Log.Record} {outcome : Option Log.Record} (h : s.Sequel past shown c rendered outcome)
    (hd : s.display = none) {item : Item} (hc : s.converter.convert past c = .item item) :
    rendered ++ outcome.toList = s.sinkRecords item := by
  cases h with
  | nothing h | failed h | panicked h => rw [hc] at h; cases h
  | text h | dump h | exception h | clear h => rw [hc] at h; cases h; rfl
  | shown _ hd' | broken _ hd' => rw [hd] at hd'; cases hd'

theorem Logged.exception_eq {past : List Chunk} {shown : List Item} {l : LeafLog}
    (h : s.Logged past shown l) :
    l.exception = (s.exceptionRecords l.leaf).head? :=
  Option.ext fun _ => (h.exception _).trans s.head?_exceptionRecords_eq_some_iff.symm

/-- Without a display the log is about the item that the leaf is converted to. -/
theorem Logged.records_eq {past : List Chunk} {shown : List Item} {l : LeafLog}
    (h : s.Logged past shown l) (hd : s.display = none) {item : Item}
    (hc : s.converter.convert past l.leaf = .item item) :
    l.records = s.exceptionRecords l.leaf ++ s.sinkRecords item := by
  rw [LeafLog.records, h.exception_eq, toList_head?_exceptionRecords,
    h.sequel.eq_sinkRecords hd hc]

/-- With the standard converter and no display, a leaf has one record, unless all it does is clear
the display. -/
theorem Logged.one_record {past : List Chunk} {shown : List Item} {l : LeafLog}
    (h : s.Logged past shown l) (hk : s.converter = .standard) (hd : s.display = none)
    (hleaf : l.leaf.isContent = true) :
    (¬ l.leaf.Clears → ∃ r, l.records = [r]) ∧ (l.leaf.Clears → l.records = []) := by
  have hrecords : ∀ item, Converter.standard l.leaf = .item item →
      l.records = s.exceptionRecords l.leaf ++ s.sinkRecords item :=
    fun item hitem => h.records_eq hd (by rw [hk]; exact hitem)
  obtain ⟨leaf, _, _, _⟩ := l
  cases leaf with
  | empty | batch | shutdown => cases hleaf
  | text t =>
    exact ⟨fun _ => ⟨_, hrecords (.text t) rfl⟩, fun ⟨_, hv, _⟩ => by cases hv⟩
  | record v =>
    have hrecord := hrecords (Converter.recordItem v) rfl
    rw [exceptionRecords] at hrecord
    unfold Converter.recordItem at hrecord
    cases he : ServerException.ofJson? v with
    | some e =>
      rw [he] at hrecord
      refine ⟨fun _ => ⟨_, hrecord⟩, ?_⟩
      rintro ⟨members, ⟨⟩, hnot, -⟩
      exact absurd (ServerException.ofJson?_eq_some_iff.mp he) (hnot e)
    | none =>
      rw [he] at hrecord
      have hnot : ∀ e, ¬ ServerException.Describes v e := fun e hdescribes => by
        rw [ServerException.ofJson?_eq_some_iff.mpr hdescribes] at he
        cases he
      cases hclear : Converter.asksToClear v with
      | true =>
        rw [hclear] at hrecord
        obtain ⟨members, rfl, hmember⟩ := Converter.asksToClear_iff.mp hclear
        exact ⟨fun h => absurd ⟨members, rfl, hnot, hmember⟩ h, fun _ => hrecord⟩
      | false =>
        rw [hclear] at hrecord
        refine ⟨fun _ => ⟨_, hrecord⟩, ?_⟩
        rintro ⟨members, ⟨⟩, -, hmember⟩
        have htrue := Converter.asksToClear_iff.mpr ⟨members, rfl, hmember⟩
        exact absurd (hclear.symm.trans htrue) Bool.false_ne_true

end Setting

namespace Delivery

/-- Whatever the converter, the display and the hooks do: a delivery writes, for each leaf before
the first shutdown and in their order, the exception that it describes, if it does, then what the
display writes, and then at most one record of its own; and nothing else. With the standard
converter and no display this is one record for every leaf, but for those that only clear the
display. -/
theorem logs_of_leaves (s : Setting) (chunk : Option Chunk) (d : Delivery) :
    ∃ logs : List LeafLog, logs.map LeafLog.leaf = Chunk.contentsIn chunk ∧
      (process s chunk d).1.outlet.records = d.outlet.records ++ logs.flatMap LeafLog.records ∧
      (∀ earlier l later, logs = earlier ++ l :: later →
        s.Logged (d.outlet.converted ++ earlier.map LeafLog.leaf)
          (d.outlet.shown ++
            s.passed (s.converter.itemsAfter d.outlet.converted (earlier.map LeafLog.leaf))) l) ∧
      (s.converter = .standard → s.display = none → ∀ l ∈ logs,
        (¬ l.leaf.Clears → ∃ r, l.records = [r]) ∧ (l.leaf.Clears → l.records = [])) := by
  obtain ⟨logs, hleaves, hrecords, hlogged⟩ :=
    s.dispatchAll_logs (Chunk.contentsIn chunk) d.outlet
  refine ⟨logs, hleaves, (process_records s chunk d).trans hrecords, hlogged, ?_⟩
  intro hk hd l hl
  obtain ⟨earlier, later, hsplit⟩ := List.append_of_mem hl
  have hleaf : l.leaf ∈ Chunk.contentsIn chunk := hleaves ▸ List.mem_map_of_mem hl
  exact (hlogged earlier l later hsplit).one_record hk hd (Chunk.isContent_of_mem_contentsIn hleaf)

/-- An exception, two envelopes deep, a text with blanks at its end, and a record that clears the
display; the shutdown that ends them, and a text after it. With other collaborators the converter
fails on the exception and panics on the text, and the display panics on what is left. -/
theorem logs_of_leaves_brief :
    let s : Setting := ⟨⟨"app-1"⟩, .standard, none, none⟩
    let failure : Json := .object [("cause", .null), ("javaClass", .string "E"),
      ("message", .string "bad"), ("stackTrace", .array [])]
    let clear : Json := .object [("_", .string "ClearConsole")]
    let c : Chunk := .batch [.batch [.batch [.record failure], .text "late  "], .record clear,
      .shutdown true, .text "lost"]
    let faulty : Setting := ⟨⟨"app-1"⟩, ⟨fun past _ =>
      if past.isEmpty then .failed ⟨"no room"⟩
      else if past.length = 1 then .panicked (.message "gone")
      else .item .clear⟩, some fun _ _ => ⟨[], some .other⟩, none⟩
    s.converter = .standard ∧ s.display = none ∧
    (process s (some c) (fresh (.ofDebounce 1000))).1.outlet.records =
      [⟨.error, "console_stream::processor", [("message", "remote exception"),
          ("session", "app-1"), ("class", "E"), ("message", "bad")]⟩,
        ⟨.info, "console_stream::sink", [("message", "late"), ("session", "app-1")]⟩] ∧
    (process faulty (some c) (fresh (.ofDebounce 1000))).1.outlet.records =
      [⟨.error, "console_stream::processor", [("message", "remote exception"),
          ("session", "app-1"), ("class", "E"), ("message", "bad")]⟩,
        ⟨.warn, "console_stream::processor",
          [("message", "chunk converter failed; skipping chunk"), ("session", "app-1"),
            ("kind", "structured"), ("error", "chunk conversion failed: no room")]⟩,
        ⟨.warn, "console_stream::processor",
          [("message", "chunk converter panicked; skipping chunk"), ("session", "app-1"),
            ("kind", "text"), ("panic", "gone")]⟩,
        ⟨.warn, "console_stream::processor",
          [("message", "render target panicked; item dropped"), ("session", "app-1"),
            ("panic", "non-string panic payload")]⟩] ∧
    ∃ logs : List LeafLog,
      logs.map LeafLog.leaf = [.record failure, .text "late  ", .record clear] ∧
      ∀ l ∈ logs, ¬ l.leaf.Clears → ∃ r, l.records = [r] := by
  intro s failure clear c faulty
  obtain ⟨logs, hleaves, -, -, hone⟩ := logs_of_leaves s (some c) (fresh (.ofDebounce 1000))
  exact ⟨rfl, rfl, by decide +kernel, by decide +kernel, logs, hleaves,
    fun l hl => (hone rfl rfl l hl).1⟩

end Delivery

end RemoteConsole
