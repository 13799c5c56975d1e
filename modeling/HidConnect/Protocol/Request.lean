import HidConnect.Kvs.Appends
import Mathlib.Data.List.DropRight

/-! A request of the text protocol: a verb and its pairs on one line. -/
namespace HidConnect
namespace Kvs

def trimEnd (s : List Char) : List Char := s.rdropWhile isWhitespace

def splitHead (cmd : String) : String × String :=
  let trimmed := trimStart cmd.toList
  let verb := trimmed.takeWhile fun c => !isAsciiWhitespace c
  let rest := trimEnd (trimStart (trimmed.drop verb.length))
  (String.ofList verb, String.ofList rest)

/- What is cut off at the end of a line. -/

theorem trimEnd_append (s t : List Char) :
    trimEnd (s ++ t) = if trimEnd t = [] then trimEnd s else s ++ trimEnd t := by
  simp only [trimEnd, List.rdropWhile, List.reverse_append, List.dropWhile_append, List.isEmpty_iff,
    List.reverse_eq_nil_iff]
  split
  · rfl
  · rw [List.reverse_append, List.reverse_reverse]

theorem trimEnd_sublist (s : List Char) : (trimEnd s).Sublist s :=
  (List.rdropWhile_prefix _ s).sublist

theorem trimEnd_solid {c : Char} (solid : isWhitespace c = false) (s : List Char) :
    trimEnd (c :: s) = c :: trimEnd s := by
  have first : trimEnd [c] = [c] := by
    rw [trimEnd, List.rdropWhile_singleton, solid]
    rfl
  have split := trimEnd_append [c] s
  rw [List.singleton_append, first] at split
  rw [split]
  split
  case isTrue empty => rw [empty]
  case isFalse => rfl

theorem parse_trimEnd_trimStart (s : List Char) :
    parse (trimEnd (trimStart s)) = parse (trimEnd s) := by
  have blank : ∀ c ∈ s.takeWhile isWhitespace, isWhitespace c = true :=
    fun c member => List.mem_takeWhile_imp member
  have whole : s.takeWhile isWhitespace ++ trimStart s = s := List.takeWhile_append_dropWhile
  have split := trimEnd_append (s.takeWhile isWhitespace) (trimStart s)
  rw [whole] at split
  rw [split]
  split
  case isTrue empty =>
    have nothing : trimEnd (s.takeWhile isWhitespace) = [] := List.rdropWhile_eq_nil_iff.mpr blank
    rw [empty, nothing]
  case isFalse => exact (parse_append_blank blank _).symm

/-- What is left of a value at the end of a line. -/
def lastValue (value : List Char) : List Char :=
  if needsQuoting value then value else trimEnd value

theorem trimEnd_quoteValue (value : List Char) :
    trimEnd (quoteValue value) = quoteValue (lastValue value) := by
  rw [quoteValue, lastValue]
  split
  case isTrue quoted =>
    have closed : ¬isWhitespace '"' = true := by decide
    rw [quoteValue, if_pos quoted, ← List.cons_append, trimEnd,
      List.rdropWhile_concat_neg _ _ _ closed]
  case isFalse bare =>
    have still : ¬needsQuoting (trimEnd value) = true := fun quoted => by
      obtain ⟨c, member, special⟩ := List.any_eq_true.mp quoted
      exact bare (List.any_eq_true.mpr ⟨c, (trimEnd_sublist value).subset member, special⟩)
    rw [quoteValue, if_neg still]

theorem trimEnd_pairText (key value : List Char) :
    trimEnd (pairText key value) = pairText key (lastValue value) := by
  have equals : trimEnd ('=' :: quoteValue value) = '=' :: quoteValue (lastValue value) := by
    rw [trimEnd_solid (by decide), trimEnd_quoteValue]
  rw [pairText, trimEnd_append, equals, if_neg (List.cons_ne_nil _ _), pairText]

theorem trimEnd_body (pairs : List (List Char × List Char)) (key value : List Char) :
    trimEnd (body (pairs ++ [(key, value)])).tail =
      (body (pairs ++ [(key, lastValue value)])).tail := by
  have last (value : List Char) : (body (pairs ++ [(key, value)])).tail =
      (body pairs ++ [' ']).tail ++ pairText key value := by
    rw [body, List.flatMap_append, List.flatMap_singleton, ← List.tail_append_of_ne_nil (by simp),
      List.append_assoc]
    rfl
  have some : pairText key (lastValue value) ≠ [] := by simp [pairText]
  rw [last, last, trimEnd_append, trimEnd_pairText, if_neg some]

/- What is cut off does not come back. -/

theorem splitKv_sublist (token : List Char) :
    ((splitKv token).1 ++ (splitKv token).2).Sublist token := by
  have bare (raw : List Char) : ((unquoted raw).getD raw).Sublist raw := by
    cases quoted : unquoted raw with
    | none => exact List.Sublist.refl raw
    | some inner => exact unquoted_sublist quoted
  by_cases some : '=' ∈ token
  · obtain ⟨key, raw, rfl, -, split⟩ := split_token some
    have whole := split []
    rw [List.append_nil, List.append_nil] at whole
    rw [whole]
    exact (List.Sublist.refl key).append ((bare raw).cons '=')
  · rw [splitKv_of_no_equals some, List.append_nil]
    exact bare token

theorem content_sublist (s : List Char) : (content (parse s)).Sublist s := by
  induction s using parse_induction with
  | blank s empty =>
    rw [parse_blank empty]
    exact List.nil_sublist s
  | token s headed ih =>
    have whole := List.take_append_drop (tokenLen (trimStart s)) (trimStart s)
    have parts := (splitKv_sublist ((trimStart s).take (tokenLen (trimStart s)))).append ih
    rw [whole] at parts
    rw [← parse_trimStart, parse_headed headed, content, List.flatMap_cons]
    exact parts.trans (List.dropWhile_sublist _)

theorem count_body_of_other {c : Char} (other : c ≠ ' ' ∧ c ≠ '=' ∧ c ≠ '"' ∧ c ≠ '\\')
    (pairs : List (List Char × List Char)) : (body pairs).count c = (content pairs).count c := by
  obtain ⟨space, equals, quote, slash⟩ := other
  have escaped (value : List Char) : (escape value).count c = value.count c := by
    induction value with
    | nil => rfl
    | cons d value ih =>
      rw [escape, List.flatMap_cons, List.count_append]
      change _ + (escape value).count _ = _
      rw [ih]
      by_cases d_quote : d = '"'
      · simp [d_quote, Ne.symm quote, Ne.symm slash]
      · simp [d_quote, List.count_cons, Nat.add_comm]
  have quoted (value : List Char) : (quoteValue value).count c = value.count c := by
    rw [quoteValue]
    split
    · simp [Ne.symm quote, escaped]
    · rfl
  induction pairs with
  | nil => rfl
  | cons p pairs ih =>
    simp only [body, content, List.flatMap_cons, pairText, List.count_append, List.count_cons] at ih ⊢
    simp [ih, quoted, Ne.symm space, Ne.symm equals]

theorem lastValue_eq_iff (value : List Char) :
    lastValue value = value ↔ needsQuoting value = true ∨ trimEnd value = value := by
  rw [lastValue]
  split
  case isTrue quoted => simp [quoted]
  case isFalse bare => simp [bare]

/-- A value that does not come back whole ends in a space that needs no quotes. -/
theorem cut_of_lastValue {value : List Char} (cut : lastValue value ≠ value) :
    ∃ front c, value = front ++ [c] ∧ (c ≠ ' ' ∧ c ≠ '=' ∧ c ≠ '"' ∧ c ≠ '\\') ∧
      lastValue value = trimEnd front := by
  have bare : ¬needsQuoting value = true := fun quoted => cut (if_pos quoted)
  have shorter : lastValue value = trimEnd value := if_neg bare
  obtain ⟨flat, none⟩ := flat_of_unquoted (Bool.eq_false_iff.mpr bare)
  rw [shorter] at cut ⊢
  rcases value.eq_nil_or_concat with rfl | ⟨front, c, rfl⟩
  · exact absurd rfl cut
  · rw [List.concat_eq_append] at *
    have last : c ∈ front ++ [c] := List.mem_append_right _ (List.mem_singleton_self c)
    have blank : isWhitespace c = true := by
      by_contra solid
      exact cut (List.rdropWhile_concat_neg _ _ _ solid)
    refine ⟨front, c, rfl, ⟨?_, (flat c last).2, fun quote => none (quote ▸ last), ?_⟩,
      List.rdropWhile_concat_pos _ _ _ blank⟩
    · rintro rfl
      exact absurd (flat ' ' last).1 (by decide)
    · rintro rfl
      exact absurd blank (by decide)

theorem whole_of_parse {pairs : List (List Char × List Char)} {key value : List Char}
    (same : parse (body (pairs ++ [(key, lastValue value)])).tail = pairs ++ [(key, value)]) :
    lastValue value = value := by
  by_contra cut
  obtain ⟨front, c, shape, other, left⟩ := cut_of_lastValue cut
  have read := (content_sublist (body (pairs ++ [(key, lastValue value)])).tail).count_le c
  have written := (List.tail_sublist (body (pairs ++ [(key, lastValue value)]))).count_le c
  have fewer := (trimEnd_sublist front).count_le c
  have one (value : List Char) : (content (pairs ++ [(key, value)])).count c =
      (content pairs).count c + key.count c + value.count c := by
    simp [content, Nat.add_assoc]
  rw [count_body_of_other other, one, left] at written
  rw [same, one, shape, List.count_append, List.count_singleton_self, ← shape] at read
  rw [left] at read
  omega

/-- The rest of a line is read as the pairs that were put there exactly if they would be read on their own
and the end of the line cuts nothing off the last value. -/
theorem parse_rest_iff (pairs : List (List Char × List Char)) :
    parse (trimEnd (trimStart (body pairs).tail)) = pairs ↔
      (∀ p ∈ pairs, Legible p.1 ∧ '"' ∉ p.2) ∧ ∀ p ∈ pairs.getLast?, lastValue p.2 = p.2 := by
  have closed : place [] ≠ .quoted := by decide
  rw [parse_trimEnd_trimStart]
  rcases pairs.eq_nil_or_concat with rfl | ⟨front, ⟨key, value⟩, rfl⟩
  · simp [body, trimEnd, parse, tokens]
  · rw [List.concat_eq_append, trimEnd_body, List.getLast?_concat]
    have alone := parse_append_iff closed (front ++ [(key, value)])
    have last : (∀ p ∈ some (key, value), lastValue p.2 = p.2) ↔ lastValue value = value := by simp
    rw [last]
    constructor
    · intro same
      have whole := whole_of_parse same
      rw [whole] at same
      exact ⟨((alone.mp same).resolve_left (by simp)).2, whole⟩
    · rintro ⟨legible, whole⟩
      rw [whole]
      exact alone.mpr (.inr ⟨rfl, legible⟩)

end Kvs

namespace Protocol
open Kvs

structure VerbParseError where
  name : String

inductive Verb where
  | ping | info | quit | dump | dumpActive | screenshot | stream | streamH264 | streamH265
  | streamTileJpeg | streamTileH265 | keyframe | tap | swipe | swipeDir | down | move | up
  | scroll | key | text | waitForIdle | waitForText | waitForActivity | tapAndDump | tapAndSettle
  | selectAndTap | aiAnchorTap | typeAndWait | clickUntilText | dumpAndFrame | keyframeAndWait
  | hevcParamSets | state | stateWatch | nodeClick | nodeLongClick | nodeSetText | nodeScroll
  | nodeFocus | submit | pmList | pmPath | pmUninstall | pmGrant | pmRevoke | deeplinks | install
  | installMulti | sms | calls | contacts | calendar | clipGet | clipSet | clipWatch | amStart
  | amForceStop | amKill | amBroadcast | pull | push | getprop | setprop | settingsGet
  | settingsPut | wmInfo | wmRotation | dumpsys | logcat | shell | monitor | paste
  deriving DecidableEq

namespace Verb

def asStr : Verb → String
  | ping => "ping"
  | info => "info"
  | quit => "quit"
  | dump => "dump"
  | dumpActive => "dump_active"
  | screenshot => "screenshot"
  | stream => "stream"
  | streamH264 => "stream_h264"
  | streamH265 => "stream_h265"
  | streamTileJpeg => "stream_tilejpeg"
  | streamTileH265 => "stream_tile_h265"
  | keyframe => "keyframe"
  | tap => "tap"
  | swipe => "swipe"
  | swipeDir => "swipe_dir"
  | down => "down"
  | move => "move"
  | up => "up"
  | scroll => "scroll"
  | key => "key"
  | text => "text"
  | waitForIdle => "wait_for_idle"
  | waitForText => "wait_for_text"
  | waitForActivity => "wait_for_activity"
  | tapAndDump => "tap_and_dump"
  | tapAndSettle => "tap_and_settle"
  | selectAndTap => "select_and_tap"
  | aiAnchorTap => "ai_anchor_tap"
  | typeAndWait => "type_and_wait"
  | clickUntilText => "click_until_text"
  | dumpAndFrame => "dump_and_frame"
  | keyframeAndWait => "keyframe_and_wait"
  | hevcParamSets => "hevc_param_sets"
  | state => "state"
  | stateWatch => "state_watch"
  | nodeClick => "node_click"
  | nodeLongClick => "node_long_click"
  | nodeSetText => "node_set_text"
  | nodeScroll => "node_scroll"
  | nodeFocus => "node_focus"
  | submit => "submit"
  | pmList => "pm_list"
  | pmPath => "pm_path"
  | pmUninstall => "pm_uninstall"
  | pmGrant => "pm_grant"
  | pmRevoke => "pm_revoke"
  | deeplinks => "deeplinks"
  | install => "install"
  | installMulti => "install_multi"
  | sms => "sms"
  | calls => "calls"
  | contacts => "contacts"
  | calendar => "calendar"
  | clipGet => "clip_get"
  | clipSet => "clip_set"
  | clipWatch => "clip_watch"
  | amStart => "am_start"
  | amForceStop => "am_force_stop"
  | amKill => "am_kill"
  | amBroadcast => "am_broadcast"
  | pull => "pull"
  | push => "push"
  | getprop => "getprop"
  | setprop => "setprop"
  | settingsGet => "settings_get"
  | settingsPut => "settings_put"
  | wmInfo => "wm_info"
  | wmRotation => "wm_rotation"
  | dumpsys => "dumpsys"
  | logcat => "logcat"
  | shell => "shell"
  | monitor => "monitor"
  | paste => "paste"

def parse (s : String) : Except VerbParseError Verb :=
  match s with
  | "ping" => .ok ping
  | "info" => .ok info
  | "quit" => .ok quit
  | "dump" => .ok dump
  | "dump_active" => .ok dumpActive
  | "screenshot" => .ok screenshot
  | "stream" => .ok stream
  | "stream_h264" => .ok streamH264
  | "stream_h265" => .ok streamH265
  | "stream_tilejpeg" => .ok streamTileJpeg
  | "stream_tile_h265" => .ok streamTileH265
  | "keyframe" => .ok keyframe
  | "tap" => .ok tap
  | "swipe" => .ok swipe
  | "swipe_dir" => .ok swipeDir
  | "down" => .ok down
  | "move" => .ok move
  | "up" => .ok up
  | "scroll" => .ok scroll
  | "key" => .ok key
  | "text" => .ok text
  | "wait_for_idle" => .ok waitForIdle
  | "wait_for_text" => .ok waitForText
  | "wait_for_activity" => .ok waitForActivity
  | "tap_and_dump" => .ok tapAndDump
  | "tap_and_settle" => .ok tapAndSettle
  | "select_and_tap" => .ok selectAndTap
  | "ai_anchor_tap" => .ok aiAnchorTap
  | "type_and_wait" => .ok typeAndWait
  | "click_until_text" => .ok clickUntilText
  | "dump_and_frame" => .ok dumpAndFrame
  | "keyframe_and_wait" => .ok keyframeAndWait
  | "hevc_param_sets" => .ok hevcParamSets
  | "state" => .ok state
  | "state_watch" => .ok stateWatch
  | "node_click" => .ok nodeClick
  | "node_long_click" => .ok nodeLongClick
  | "node_set_text" => .ok nodeSetText
  | "node_scroll" => .ok nodeScroll
  | "node_focus" => .ok nodeFocus
  | "submit" => .ok submit
  | "pm_list" => .ok pmList
  | "pm_path" => .ok pmPath
  | "pm_uninstall" => .ok pmUninstall
  | "pm_grant" => .ok pmGrant
  | "pm_revoke" => .ok pmRevoke
  | "deeplinks" => .ok deeplinks
  | "install" => .ok install
  | "install_multi" => .ok installMulti
  | "sms" => .ok sms
  | "calls" => .ok calls
  | "contacts" => .ok contacts
  | "calendar" => .ok calendar
  | "clip_get" => .ok clipGet
  | "clip_set" => .ok clipSet
  | "clip_watch" => .ok clipWatch
  | "am_start" => .ok amStart
  | "am_force_stop" => .ok amForceStop
  | "am_kill" => .ok amKill
  | "am_broadcast" => .ok amBroadcast
  | "pull" => .ok pull
  | "push" => .ok push
  | "getprop" => .ok getprop
  | "setprop" => .ok setprop
  | "settings_get" => .ok settingsGet
  | "settings_put" => .ok settingsPut
  | "wm_info" => .ok wmInfo
  | "wm_rotation" => .ok wmRotation
  | "dumpsys" => .ok dumpsys
  | "logcat" => .ok logcat
  | "shell" => .ok shell
  | "monitor" => .ok monitor
  | "paste" => .ok paste
  | other => .error ⟨other⟩

end Verb

theorem Verb.parse_asStr (v : Verb) : parse v.asStr = .ok v := by
  cases v <;> rfl

theorem Verb.asStr_solid (v : Verb) :
    v.asStr.toList.all (fun c => !isWhitespace c) = true ∧ v.asStr.toList ≠ [] := by
  cases v <;> decide

def requestLine (verb : Verb) (pairs : List (String × String)) : String :=
  KvWriter.writtenOnto (verb.asStr ++ " ") pairs

theorem splitHead_requestLine (verb : Verb) (pairs : List (String × String)) :
    splitHead (requestLine verb pairs) =
      (verb.asStr, String.ofList (trimEnd (trimStart (body (pairs.map chars)).tail))) := by
  obtain ⟨solid, some⟩ := verb.asStr_solid
  have each : ∀ c ∈ verb.asStr.toList, isWhitespace c = false := by simpa using solid
  have headed : Headed verb.asStr.toList := by
    obtain ⟨c, rest, shape⟩ := List.exists_cons_of_ne_nil some
    exact ⟨c, rest, shape, each c (shape ▸ List.mem_cons_self ..)⟩
  have line : (requestLine verb pairs).toList =
      verb.asStr.toList ++ ' ' :: (body (pairs.map chars)).tail := by
    rw [requestLine, KvWriter.writtenOnto_toList, String.toList_append, List.append_assoc]
    rfl
  have head : (verb.asStr.toList ++ ' ' :: (body (pairs.map chars)).tail).takeWhile
      (fun c => !isAsciiWhitespace c) = verb.asStr.toList := by
    rw [List.takeWhile_append_of_pos fun c member => by
      simp [not_ascii_of_not_whitespace (each c member)]]
    simp [isAsciiWhitespace]
  have space (s : List Char) : trimStart (' ' :: s) = trimStart s := rfl
  simp only [splitHead]
  rw [line, (headed.append _).trimmed, head, List.drop_left, space, String.ofList_toList]

/-- The reader of a request finds its verb, whatever stands behind it, and finds its pairs if and only if
no key is broken or cut off by the parser, no value has a quote in it, and the last value is quoted or
does not end in a space, be it one that only Unicode calls so. -/
theorem request_reads_back (verb : Verb) (pairs : List (String × String)) :
    Verb.parse (splitHead (requestLine verb pairs)).1 = .ok verb ∧
      (parseKv (splitHead (requestLine verb pairs)).2 = pairs ↔
        (∀ p ∈ pairs, Legible p.1.toList ∧ '"' ∉ p.2.toList) ∧
          ∀ p ∈ pairs.getLast?, needsQuoting p.2.toList = true ∨ trimEnd p.2.toList = p.2.toList) := by
  rw [splitHead_requestLine]
  refine ⟨verb.parse_asStr, ?_⟩
  have last : (∀ p ∈ (pairs.map chars).getLast?, lastValue p.2 = p.2) ↔
      ∀ p ∈ pairs.getLast?, lastValue p.2.toList = p.2.toList := by
    rw [List.getLast?_map]
    cases pairs.getLast? <;> simp [chars]
  rw [parseKv_eq_iff, ← String.length_toList, String.toList_ofList]
  change parse _ = _ ↔ _
  rw [parse_rest_iff, last, List.forall_mem_map]
  simp only [lastValue_eq_iff]
  rfl

/-- A no-break space is not quoted, and the end of the line takes it away. -/
example : parseKv (splitHead (requestLine .text [("text", "price\u00a0")])).2 = [("text", "price")] := by
  decide

end Protocol

end HidConnect
