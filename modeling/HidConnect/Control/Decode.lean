import HidConnect.Control.Device
import HidConnect.Control.Text
import HidConnect.Library.Decoder

/-! A decoder of the control stream, after the layout of its messages, and the round trip. -/
namespace HidConnect
open Fallible

/-- A control message as it arrives: no name is the empty one, pressure and scroll are fixed-point
numbers, and a report is as long as it says. -/
inductive Received where
  | uhidCreate (id vendorId productId : UInt16) (name : String) (reportDesc : List UInt8)
  | uhidInput (id : UInt16) (report : List UInt8)
  | uhidDestroy (d : UhidDestroy)
  | injectKeycode (k : InjectKeycode)
  | injectText (t : InjectText)
  | injectTouchEvent (action : UInt8) (pointerId : UInt64) (x y : Int32)
      (screenW screenH pressure : UInt16) (actionButton buttons : UInt32)
  | injectScrollEvent (x y : Int32) (screenW screenH hscroll vscroll : UInt16) (buttons : UInt32)
  | backOrScreenOn (b : BackOrScreenOn)
  | getClipboard (g : GetClipboard)
  | setClipboard (s : SetClipboard)
  | setDisplayPower (s : SetDisplayPower)
  | startApp (s : StartApp)
  | cameraSetTorch (t : CameraSetTorch)
  | resizeDisplay (r : ResizeDisplay)
  | expandNotificationPanel
  | expandSettingsPanel
  | collapsePanels
  | rotateDevice
  | openHardKeyboardSettings
  | resetVideo
  | cameraZoomIn
  | cameraZoomOut
  | aiConfig (c : AiConfig)
  | aiQuery (q : AiQuery)
  | aiPause

namespace ControlMessage

def received : ControlMessage → Received
  | uhidCreate c => .uhidCreate c.id c.vendorId c.productId (c.name.getD "") c.reportDesc
  | uhidInput i => .uhidInput i.id (i.data.toList.take i.size.toNat)
  | uhidDestroy d => .uhidDestroy d
  | injectKeycode k => .injectKeycode k
  | injectText t => .injectText t
  | injectTouchEvent t =>
    .injectTouchEvent t.action t.pointerId t.x t.y t.screenW t.screenH
      (clamp t.pressure 0 1 * 65536).toUInt16 t.actionButton t.buttons
  | injectScrollEvent s =>
    .injectScrollEvent s.x s.y s.screenW s.screenH
      (clamp (s.hscroll / 16) (-1) 1 * 32768).toInt16.toUInt16
      (clamp (s.vscroll / 16) (-1) 1 * 32768).toInt16.toUInt16 s.buttons
  | backOrScreenOn b => .backOrScreenOn b
  | getClipboard g => .getClipboard g
  | setClipboard s => .setClipboard s
  | setDisplayPower s => .setDisplayPower s
  | startApp s => .startApp s
  | cameraSetTorch t => .cameraSetTorch t
  | resizeDisplay r => .resizeDisplay r
  | expandNotificationPanel => .expandNotificationPanel
  | expandSettingsPanel => .expandSettingsPanel
  | collapsePanels => .collapsePanels
  | rotateDevice => .rotateDevice
  | openHardKeyboardSettings => .openHardKeyboardSettings
  | resetVideo => .resetVideo
  | cameraZoomIn => .cameraZoomIn
  | cameraZoomOut => .cameraZoomOut
  | aiConfig c => .aiConfig c
  | aiQuery q => .aiQuery q
  | aiPause => .aiPause

end ControlMessage

namespace Decode

def u8 : Decoder UInt8 := do
  let n ← Decoder.uint 1
  pure n.toUInt8

def u16 : Decoder UInt16 := do
  let n ← Decoder.uint 2
  pure n.toUInt16

def u32 : Decoder UInt32 := do
  let n ← Decoder.uint 4
  pure n.toUInt32

def u64 : Decoder UInt64 := do
  let n ← Decoder.uint 8
  pure n.toUInt64

def i32 : Decoder Int32 := do
  let v ← u32
  pure v.toInt32

def bool : Decoder Bool := do
  let b ← u8
  pure (b ≠ 0)

def tinyText : Decoder String := do
  let n ← u8
  Decoder.utf8 n.toNat

def text : Decoder String := do
  let n ← u32
  Decoder.utf8 n.toNat

def blob : Decoder (List UInt8) := do
  let n ← u16
  Decoder.take n.toNat

def uhidCreate : Decoder Received := do
  let id ← u16
  let vendorId ← u16
  let productId ← u16
  let name ← tinyText
  let reportDesc ← blob
  pure (.uhidCreate id vendorId productId name reportDesc)

def uhidInput : Decoder Received := do
  let id ← u16
  let report ← blob
  pure (.uhidInput id report)

def injectKeycode : Decoder Received := do
  let action ← u8
  let keycode ← u32
  let repeats ← u32
  let metastate ← u32
  pure (.injectKeycode { action, keycode, repeats, metastate })

def injectTouchEvent : Decoder Received := do
  let action ← u8
  let pointerId ← u64
  let x ← i32
  let y ← i32
  let screenW ← u16
  let screenH ← u16
  let pressure ← u16
  let actionButton ← u32
  let buttons ← u32
  pure (.injectTouchEvent action pointerId x y screenW screenH pressure actionButton buttons)

def injectScrollEvent : Decoder Received := do
  let x ← i32
  let y ← i32
  let screenW ← u16
  let screenH ← u16
  let hscroll ← u16
  let vscroll ← u16
  let buttons ← u32
  pure (.injectScrollEvent x y screenW screenH hscroll vscroll buttons)

def setClipboard : Decoder Received := do
  let sequence ← u64
  let paste ← bool
  let text ← text
  pure (.setClipboard { sequence, paste, text })

def resizeDisplay : Decoder Received := do
  let width ← u16
  let height ← u16
  pure (.resizeDisplay { width, height })

def aiConfig : Decoder Received := do
  let flags ← u8
  let sampleIntervalMs ← u16
  let featureDim ← u16
  pure (.aiConfig { flags, sampleIntervalMs, featureDim })

def payload (tag : UInt8) : Decoder Received :=
  match tag.toNat with
  | 0 => injectKeycode
  | 1 => do
    let text ← text
    pure (.injectText { text })
  | 2 => injectTouchEvent
  | 3 => injectScrollEvent
  | 4 => do
    let action ← u8
    pure (.backOrScreenOn { action })
  | 5 => pure .expandNotificationPanel
  | 6 => pure .expandSettingsPanel
  | 7 => pure .collapsePanels
  | 8 => do
    let copyKey ← u8
    pure (.getClipboard { copyKey })
  | 9 => setClipboard
  | 10 => do
    let on ← bool
    pure (.setDisplayPower { on })
  | 11 => pure .rotateDevice
  | 12 => uhidCreate
  | 13 => uhidInput
  | 14 => do
    let id ← u16
    pure (.uhidDestroy { id })
  | 15 => pure .openHardKeyboardSettings
  | 16 => do
    let name ← tinyText
    pure (.startApp { name })
  | 17 => pure .resetVideo
  | 18 => do
    let on ← bool
    pure (.cameraSetTorch { on })
  | 19 => pure .cameraZoomIn
  | 20 => pure .cameraZoomOut
  | 21 => resizeDisplay
  | 22 => aiConfig
  | 23 => do
    let sinceTimestampMs ← u64
    pure (.aiQuery { sinceTimestampMs })
  | 24 => pure .aiPause
  | _ => .fail

def message : Decoder Received := do
  let tag ← u8
  payload tag

def stream (bs : List UInt8) : Option (List Received) := Decoder.all message bs

/- A writer and the decoder that reads back what it wrote. -/

/-- The decoder reads the value from what the writer appends. -/
def Mirrors {α : Type} (m : Writer Unit) (d : Decoder α) (a : α) : Prop :=
  ∃ bs, Appends m (.ok ()) bs ∧ d.Reads bs a

theorem Mirrors.bind {α β : Type} {m m' : Writer Unit} {d : Decoder α} {f : α → Decoder β} {a : α}
    {b : β} (h : Mirrors m d a) (h' : Mirrors m' (f a) b) :
    Mirrors (m >>= fun _ => m') (d >>= f) b := by
  obtain ⟨bs, appends, reads⟩ := h
  obtain ⟨cs, appends', reads'⟩ := h'
  exact ⟨bs ++ cs, appends.bind appends', reads.bind reads'⟩

theorem Mirrors.last {α β : Type} {m : Writer Unit} {d : Decoder α} {f : α → Decoder β} {a : α}
    {b : β} (h : Mirrors m d a) (h' : f a = pure b) : Mirrors m (d >>= f) b := by
  obtain ⟨bs, appends, reads⟩ := h
  exact ⟨bs, appends, reads.last h'⟩

theorem mirrors_pure {α : Type} (a : α) : Mirrors (pure ()) (pure a) a :=
  ⟨[], appends_pure (), Decoder.reads_pure a⟩

theorem mirrors_uint {α : Type} {w n : Nat} {f : Nat → Decoder α} {a : α} (h : n < 256 ^ w)
    (h' : f n = pure a) : Mirrors (extendFromSlice (Bytes.toBe w n)) (Decoder.uint w >>= f) a :=
  ⟨_, appends_extend _, (Decoder.reads_uint h).last h'⟩

theorem reads_u8 (v : UInt8) : u8.Reads [v] v := by
  have one : [v] = Bytes.toBe 1 v.toNat := by simp [Bytes.toBe, Bytes.toLe]
  rw [one]
  exact (Decoder.reads_uint v.toNat_lt).last (congrArg pure UInt8.ofNat_toNat)

theorem mirrors_u8 (v : UInt8) : Mirrors (pushByte v) u8 v :=
  ⟨[v], appends_extend _, reads_u8 v⟩

theorem mirrors_u16 (v : UInt16) : Mirrors (writeU16Be v) u16 v :=
  mirrors_uint v.toNat_lt (congrArg pure UInt16.ofNat_toNat)

theorem mirrors_u32 (v : UInt32) : Mirrors (writeU32Be v) u32 v :=
  mirrors_uint v.toNat_lt (congrArg pure UInt32.ofNat_toNat)

theorem mirrors_u64 (v : UInt64) : Mirrors (writeU64Be v) u64 v :=
  mirrors_uint v.toNat_lt (congrArg pure UInt64.ofNat_toNat)

theorem mirrors_i32 (v : Int32) : Mirrors (writeU32Be v.toUInt32) i32 v :=
  (mirrors_u32 v.toUInt32).last rfl

theorem mirrors_bool (b : Bool) : Mirrors (pushByte b.toUInt8) bool b :=
  (mirrors_u8 b.toUInt8).last (by cases b <;> rfl)

theorem mirrors_utf8 (s : String) {n : Nat} (length : n = (asBytes s).length) :
    Mirrors (extendFromSlice (asBytes s)) (Decoder.utf8 n) s := by
  subst length
  exact ⟨_, appends_extend _, Decoder.reads_utf8 s⟩

theorem mirrors_take {bs : List UInt8} {n : Nat} (length : n = bs.length) :
    Mirrors (extendFromSlice bs) (Decoder.take n) bs := by
  subst length
  exact ⟨_, appends_extend _, Decoder.reads_take bs⟩

theorem mirrors_tinyText {s : String} {maxLen : Nat} (small : maxLen < 256)
    (h : (asBytes s).length ≤ maxLen) : Mirrors (writeTinyString s maxLen) tinyText s := by
  have fits : ¬(asBytes s).length > maxLen := by omega
  rw [writeTinyString]
  simp only [if_neg fits]
  exact (mirrors_u8 _).bind (mirrors_utf8 s (Nat.mod_eq_of_lt (by omega)))

theorem mirrors_text {s : String} {cap : Nat} (small : cap < 2 ^ 32)
    (h : (asBytes s).length ≤ cap) :
    Mirrors (Method.lift (truncateText s cap) >>= fun bytes => writeString bytes) text s := by
  have whole : truncateText s cap = .ok (asBytes s) := if_neg (by omega)
  have written : Mirrors (writeString (asBytes s)) text s :=
    (mirrors_u32 _).bind (mirrors_utf8 s (Nat.mod_eq_of_lt (by omega)))
  rw [whole]
  exact written

theorem mirrors_blob {bs : List UInt8} {n : UInt16} (h : n.toNat = bs.length) :
    Mirrors (writeU16Be n >>= fun _ => extendFromSlice bs) blob bs :=
  (mirrors_u16 n).bind (mirrors_take h)

/- Every message that serializes. -/

theorem fits_tinyText {s : String} {maxLen : Nat} {buf out : List UInt8}
    (h : (writeTinyString s maxLen).run buf = (.ok (), out)) : (asBytes s).length ≤ maxLen := by
  by_contra long
  rw [writeTinyString] at h
  simp [if_pos (Nat.not_le.mp long)] at h

theorem mirrors_name {name : Option String} {buf out : List UInt8}
    (h : (writeName name).run buf = (.ok (), out)) :
    Mirrors (writeName name) tinyText (name.getD "") := by
  cases name with
  | none => exact ⟨[0], appends_extend [0], (reads_u8 0).bind (Decoder.reads_utf8 "")⟩
  | some n => exact mirrors_tinyText (by decide) (fits_tinyText h)

theorem mirrors_uhidCreate {c : UhidCreate} {out : List UInt8}
    (h : (serializeUhidCreate c).run [] = (.ok (), out)) :
    Mirrors (serializeUhidCreate c) uhidCreate
      (.uhidCreate c.id c.vendorId c.productId (c.name.getD "") c.reportDesc) := by
  have split : (serializeUhidCreate c).run [] = (do
      writeName c.name
      if c.reportDesc.length > 65535 then
        .fail (.reportDescTooLong c.reportDesc.length)
      else do
        writeU16Be c.reportDesc.length.toUInt16
        extendFromSlice c.reportDesc : Writer Unit).run (Bytes.toBe 2 c.id.toNat ++
          Bytes.toBe 2 c.vendorId.toNat ++ Bytes.toBe 2 c.productId.toNat) := rfl
  rw [split, Method.run_bind] at h
  rcases hn : (writeName c.name).run _ with ⟨r, mid⟩
  rw [hn] at h
  cases r with
  | err e => cases h
  | panic => cases h
  | ok u =>
    have fits : ¬c.reportDesc.length > 65535 := by
      intro long
      simp [if_pos long] at h
    have desc : Mirrors (if c.reportDesc.length > 65535 then
        .fail (.reportDescTooLong c.reportDesc.length)
      else do
        writeU16Be c.reportDesc.length.toUInt16
        extendFromSlice c.reportDesc) blob c.reportDesc := by
      rw [if_neg fits]
      exact mirrors_blob (Nat.mod_eq_of_lt (by omega))
    exact (mirrors_u16 _).bind ((mirrors_u16 _).bind ((mirrors_u16 _).bind
      ((mirrors_name hn).bind (desc.last rfl))))

theorem mirrors_uhidInput {i : UhidInput} {out : List UInt8}
    (h : (serializeUhidInput i).run [] = (.ok (), out)) :
    Mirrors (serializeUhidInput i) uhidInput
      (.uhidInput i.id (i.data.toList.take i.size.toNat)) := by
  have fits : ¬i.size.toNat > hidMaxSize := by
    intro long
    simp [serializeUhidInput, Method.run_bind, long, writeU16Be, extendFromSlice] at h
  have report : Mirrors (if i.size.toNat > hidMaxSize then
      .fail (.controlMessageTooLarge (i.size.toNat + 5) hidMsgBudget)
    else do
      writeU16Be i.size
      extendFromSlice (i.data.toList.take i.size.toNat)) blob (i.data.toList.take i.size.toNat) := by
    rw [if_neg fits]
    refine mirrors_blob ?_
    simp only [List.length_take, Vector.length_toList]
    omega
  exact (mirrors_u16 _).bind (report.last rfl)

theorem mirrors_position {α : Type} {x y : Int32} {w h : UInt16} {m : Writer Unit}
    {f : Int32 → Int32 → UInt16 → UInt16 → Decoder α} {a : α} (rest : Mirrors m (f x y w h) a) :
    Mirrors (writePosition x y w h >>= fun _ => m) (do
      let x ← i32
      let y ← i32
      let w ← u16
      let h ← u16
      f x y w h) a := by
  rw [writePosition, Method.bind_assoc, Method.bind_assoc, Method.bind_assoc]
  exact (mirrors_i32 x).bind ((mirrors_i32 y).bind ((mirrors_u16 w).bind ((mirrors_u16 h).bind rest)))

end Decode

open Decode

namespace ControlMessage

def WithinLimits (msg : ControlMessage) : Prop :=
  ∀ c, msg.cappedText = some c → (asBytes c.text).length ≤ c.cap

theorem mirrors_payload {msg : ControlMessage} (ok : msg.Serializes) (within : msg.WithinLimits) :
    Mirrors msg.serializePayload (payload msg.msgType.toU8) msg.received := by
  obtain ⟨out, run, _⟩ := ok.payload
  cases msg with
  | uhidCreate c => exact mirrors_uhidCreate run
  | uhidInput i => exact mirrors_uhidInput run
  | uhidDestroy d => exact (mirrors_u16 d.id).last rfl
  | injectKeycode k =>
    exact (mirrors_u8 _).bind ((mirrors_u32 _).bind ((mirrors_u32 _).bind
      ((mirrors_u32 _).last rfl)))
  | injectText t =>
    have short : (asBytes t.text).length ≤ injectTextMaxLength := within _ rfl
    exact (mirrors_text (by decide) short).last rfl
  | injectTouchEvent t =>
    exact (mirrors_u8 _).bind ((mirrors_u64 _).bind (mirrors_position ((mirrors_u16 _).bind
      ((mirrors_u32 _).bind ((mirrors_u32 _).last rfl)))))
  | injectScrollEvent s =>
    exact mirrors_position ((mirrors_u16 _).bind ((mirrors_u16 _).bind ((mirrors_u32 _).last rfl)))
  | backOrScreenOn b => exact (mirrors_u8 _).last rfl
  | getClipboard g => exact (mirrors_u8 _).last rfl
  | setClipboard s =>
    have short : (asBytes s.text).length ≤ controlMsgMaxSize - 14 := within _ rfl
    exact (mirrors_u64 _).bind ((mirrors_bool _).bind
      ((mirrors_text (by decide) short).last rfl))
  | setDisplayPower s => exact (mirrors_bool _).last rfl
  | startApp s => exact (mirrors_tinyText (by decide) (fits_tinyText run)).last rfl
  | cameraSetTorch t => exact (mirrors_bool _).last rfl
  | resizeDisplay r => exact (mirrors_u16 _).bind ((mirrors_u16 _).last rfl)
  | aiConfig c => exact (mirrors_u8 _).bind ((mirrors_u16 _).bind ((mirrors_u16 _).last rfl))
  | aiQuery q => exact (mirrors_u64 _).last rfl
  | _ => exact mirrors_pure _

theorem reads_bytes {msg : ControlMessage} (ok : msg.Serializes) (within : msg.WithinLimits) :
    message.Reads msg.bytes msg.received := by
  obtain ⟨out, run, bytes⟩ := ok.payload
  obtain ⟨bs, appends, reads⟩ := mirrors_payload ok within
  have same : bs = out := by
    rw [appends []] at run
    exact (Prod.mk.inj run).2
  rw [bytes, ← same]
  exact (reads_u8 msg.msgType.toU8).bind reads

theorem length_bytes {msg : ControlMessage} (ok : msg.Serializes) :
    msg.bytes.length ≤ controlMsgMaxSize := by
  obtain ⟨out, run, bytes⟩ := ok.payload
  obtain ⟨r, bs, appends⟩ := oblivious_payload msg
  have same : (r, bs) = (.ok (), out) := by rw [← run, appends, List.nil_append]
  cases same
  have body : (serializeTagged msg).run [] = (.ok (), msg.msgType.toU8 :: out) :=
    appends [msg.msgType.toU8]
  rw [bytes, List.length_cons]
  by_contra longer
  have long : controlMsgMaxSize < out.length + 1 := Nat.not_le.mp longer
  simp [Serializes, serialize, serializeInto, Method.run_bind, Method.rollback, body, long] at ok

theorem serializeInto_cases (msg : ControlMessage) (buf : List UInt8) :
    (∀ n, ((msg.serializeInto).run buf).1 = .ok n → ∃ bs, msg.serialize = .ok bs ∧
      n = bs.length ∧ ((msg.serializeInto).run buf).2 = buf ++ bs) ∧
    (∀ e, ((msg.serializeInto).run buf).1 = .err e → ((msg.serializeInto).run buf).2 = buf) := by
  rw [serializeInto_run]
  cases h : msg.serialize with
  | ok bs => exact ⟨fun n hn => ⟨bs, rfl, (Outcome.ok.inj hn).symm, rfl⟩, fun e he => nomatch he⟩
  | err e => exact ⟨fun n hn => (nomatch hn), fun _ _ => rfl⟩
  | panic => exact ⟨fun n hn => (nomatch hn), fun e he => nomatch he⟩

end ControlMessage

/-- The stream of a list of messages decodes to exactly that list, as it arrives. No encoding is
longer than the maximum, and encoding appends to its buffer or leaves it as it was. -/
theorem stream_decodes (msgs : List ControlMessage) (ok : ∀ msg ∈ msgs, msg.Serializes)
    (within : ∀ msg ∈ msgs, msg.WithinLimits) :
    stream (encodeAll msgs) = some (msgs.map ControlMessage.received) ∧
    (∀ msg : ControlMessage, ∀ bs, msg.serialize = .ok bs → bs.length ≤ controlMsgMaxSize) ∧
    ∀ (msg : ControlMessage) (buf : List UInt8),
      (∀ n, ((msg.serializeInto).run buf).1 = .ok n → ∃ bs, msg.serialize = .ok bs ∧
        n = bs.length ∧ ((msg.serializeInto).run buf).2 = buf ++ bs) ∧
      (∀ e, ((msg.serializeInto).run buf).1 = .err e →
        ((msg.serializeInto).run buf).2 = buf) := by
  refine ⟨Decoder.all_flatMap msgs (fun msg hm => ?_) fun msg hm =>
    ControlMessage.reads_bytes (ok msg hm) (within msg hm), fun msg bs h => ?_,
    ControlMessage.serializeInto_cases⟩
  · obtain ⟨out, _, bytes⟩ := (ok msg hm).payload
    rw [bytes]
    exact List.cons_ne_nil _ _
  · have serializes : msg.Serializes := by rw [ControlMessage.Serializes, h]; rfl
    have bounded := ControlMessage.length_bytes serializes
    rwa [ControlMessage.bytes, h] at bounded

theorem stream_decodes_three :
    stream (encodeAll [.injectText ⟨"né"⟩, .setClipboard ⟨7, true, "é"⟩, .uhidDestroy ⟨3⟩]) =
      some [.injectText ⟨"né"⟩, .setClipboard ⟨7, true, "é"⟩, .uhidDestroy ⟨3⟩] := by
  refine (stream_decodes [.injectText ⟨"né"⟩, .setClipboard ⟨7, true, "é"⟩, .uhidDestroy ⟨3⟩]
    ?_ ?_).1
  · simp only [List.forall_mem_cons, ControlMessage.Serializes]
    exact ⟨by decide +kernel, by decide +kernel, by decide +kernel, List.forall_mem_nil _⟩
  · simp only [List.forall_mem_cons, ControlMessage.WithinLimits]
    refine ⟨fun c h => ?_, fun c h => ?_, fun c h => ?_, List.forall_mem_nil _⟩
    · cases h
      decide +kernel
    · cases h
      decide +kernel
    · cases h

end HidConnect
