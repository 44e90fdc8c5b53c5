import Fabula.Content.Field
/-!
# The world

Locations, characters, items and travel maps. Only ids are required and nothing else is checked, so
all fields are authored values.
-/

namespace Fabula

structure Location where
  id : Value
  name : Value
  description : Value
  banner : Value
  music : Value
  ambient : Value
deriving Repr

structure Character where
  id : Value
  name : Value
  biography : Value
  portrait : Value
  location : Value
  dialogue : Value
  stats : Table Value
deriving Repr

structure Item where
  id : Value
  name : Value
  description : Value
  icon : Value
  image : Value
  location : Value
  stats : Table Value
deriving Repr

structure Marker where
  id : Value
  x : Value
  y : Value
deriving Repr

structure TravelMap where
  id : Value
  name : Value
  image : Value
  scale : Value
  markers : List Marker
deriving Repr

def TravelMap.findMarker? (travelMap : TravelMap) (location : Value) : Option Marker :=
  travelMap.markers.find? fun marker => marker.id.same location

def Location.ofRecord (data : Value) : Except Failure Location := do
  let id ← data.required "Location" "id"
  let fields ← data.fields
  return {
    id
    name := fields.getD "name" id
    description := fields.getD "description" ""
    banner := fields.getD "banner" ""
    music := fields.getD "music" ""
    ambient := fields.getD "ambient" "" }

def Character.ofRecord (data : Value) : Except Failure Character := do
  let id ← data.required "Character" "id"
  let fields ← data.fields
  return {
    id
    name := fields.getD "name" id
    biography := fields.getD "biography" ""
    portrait := fields.getD "portrait" ""
    location := fields.getD "location" ""
    dialogue := (fields.getOrNull "dialogue").orElse .null
    stats := ← (fields.getD "stats" (.record [])).table }

def Item.ofRecord (data : Value) : Except Failure Item := do
  let id ← data.required "Item" "id"
  let fields ← data.fields
  return {
    id
    name := fields.getD "name" id
    description := fields.getD "description" ""
    icon := fields.getD "icon" ""
    image := fields.getD "image" ""
    location := fields.getD "location" ""
    stats := ← (fields.getD "stats" (.record [])).table }

def Marker.ofRecord (data : Value) : Except Failure Marker := do
  let id ← data.required "Map location" "id"
  let fields ← data.fields
  return { id, x := fields.getD "x" (.int 0), y := fields.getD "y" (.int 0) }

def TravelMap.ofRecord (data : Value) : Except Failure TravelMap := do
  let id ← data.required "Map" "id"
  let fields ← data.fields
  return {
    id
    name := fields.getD "name" id
    image := fields.getD "image" ""
    scale := fields.getD "scale" (.float 1.0)
    markers := ← (← (fields.getD "locations" (.list [])).items).mapM Marker.ofRecord }

def Location.toRecord (location : Location) : Value :=
  .object [("id", location.id), ("name", location.name), ("description", location.description),
    ("banner", location.banner), ("music", location.music), ("ambient", location.ambient)]

def Character.toRecord (character : Character) : Value :=
  .object [("id", character.id), ("name", character.name), ("biography", character.biography),
    ("portrait", character.portrait), ("location", character.location),
    ("dialogue", character.dialogue), ("stats", .ofTable character.stats)]

def Item.toRecord (item : Item) : Value :=
  .object [("id", item.id), ("name", item.name), ("description", item.description),
    ("icon", item.icon), ("image", item.image), ("location", item.location),
    ("stats", .ofTable item.stats)]

def Marker.toRecord (marker : Marker) : Value :=
  .object [("id", marker.id), ("x", marker.x), ("y", marker.y)]

def TravelMap.toRecord (travelMap : TravelMap) : Value :=
  .object [("id", travelMap.id), ("name", travelMap.name), ("image", travelMap.image),
    ("scale", travelMap.scale), ("locations", .list (travelMap.markers.map Marker.toRecord))]

end Fabula
