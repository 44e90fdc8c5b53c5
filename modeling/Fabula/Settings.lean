import Fabula.Value.Reading
/-!
# Settings

The tunables of a session that are no part of the content. Three of them are checked: a locale must
be named, interludes cannot scroll backwards, and at least one dialogue can be started from within
another.
-/

namespace Fabula

structure Settings where
  locale : Value
  narrator : Value
  saveVersion : Value
  interludeScroll : Value
  interludeScrollSpeed : Value
  mapEnabled : Value
  seed : Value
  maxRedirects : Value
deriving Repr

namespace Settings

def standard : Settings where
  locale := "en"
  narrator := "Narrator"
  saveVersion := "1.0"
  interludeScroll := .bool true
  interludeScrollSpeed := .int 30
  mapEnabled := .bool true
  seed := .null
  maxRedirects := .int 8

def isBelow (value : Value) (bound : Int) : Except Failure Bool :=
  match value.arithmetic? with
  | some n => .ok (n.lt (.int bound))
  | none => .error .wrongKind

def check (settings : Settings) : Except Failure Settings := do
  if !settings.locale.isPresent then throw (.unsuitable .emptyLocale)
  if ← isBelow settings.interludeScrollSpeed 0 then
    throw (.unsuitable (.negativeScrollSpeed settings.interludeScrollSpeed))
  if ← isBelow settings.maxRedirects 1 then
    throw (.unsuitable (.redirectLimit settings.maxRedirects))
  return settings

def set (settings : Settings) (name : Key) (value : Value) : Except Failure Settings :=
  match name with
  | .text "default_locale" => .ok { settings with locale := value }
  | .text "narrator_label" => .ok { settings with narrator := value }
  | .text "save_version" => .ok { settings with saveVersion := value }
  | .text "interlude_scroll" => .ok { settings with interludeScroll := value }
  | .text "interlude_scroll_speed" => .ok { settings with interludeScrollSpeed := value }
  | .text "map_enabled" => .ok { settings with mapEnabled := value }
  | .text "seed" => .ok { settings with seed := value }
  | .text "max_dialogue_redirects" => .ok { settings with maxRedirects := value }
  | _ => .error .wrongKind

def ofRecord (data : Value) : Except Failure Settings := do
  let .record fields := data | throw .wrongKind
  check (← fields.foldlM (fun settings (name, value) => settings.set name value) standard)

def toRecord (settings : Settings) : Value :=
  .object [("default_locale", settings.locale), ("narrator_label", settings.narrator),
    ("save_version", settings.saveVersion), ("interlude_scroll", settings.interludeScroll),
    ("interlude_scroll_speed", settings.interludeScrollSpeed),
    ("map_enabled", settings.mapEnabled), ("seed", settings.seed),
    ("max_dialogue_redirects", settings.maxRedirects)]

/-- How many dialogues may be entered in one chain of starts, each from within the one before. A
limit with a fraction allows the next whole number of them. An infinite one is cut off. -/
def redirectLimit (settings : Settings) : Nat :=
  match settings.maxRedirects.arithmetic? with
  | some n =>
    match n.floor with
    | .ok below => if n.same (.int below) then below.toNat else (below + 1).toNat
    | .error _ => 1000
  | none => 0

end Settings
end Fabula
