import MolangAssist.Schema.Document

/-!
# The schema that comes with the library

It is used when neither the command line nor the settings name another one.
-/
namespace MolangAssist.Schema

namespace Bundled

def param (name type : String) : Param := { name := some name, type := some type }

def optionalParam (name type : String) : Param := { param name type with optional := true }

/-- A value of the given type. -/
def value (type description : String) : Member :=
  .value { description := some description } (some type)

/-- A value without description. -/
def untold (type : String) : Member := .value {} (some type)

/-- A function with a value of the given type. -/
def call (type description : String) (params : List Param) : Member :=
  .value { description := some description, returns := some type, params := params } (some type)

/-- A member of the given struct type. -/
def struct (type description : String) : Member :=
  .struct { description := some description } (some type) none

/-- A function that leads to the given struct type. -/
def lookup (type description : String) (params : List Param) : Member :=
  .struct { description := some description, params := params } (some type) none

/-- The struct types. -/
def structs : Table MemberGroup := [
  ("math", {
    description := some "Built-in math namespace."
    members := [
    ("abs", call "Number" "Absolute value."
      [param "value" "Number"]),
    ("clamp", call "Number" "Clamps a value between a minimum and a maximum."
      [param "value" "Number", param "min" "Number", param "max" "Number"]),
    ("floor", call "Number" "Rounds down to the nearest integer."
      [param "value" "Number"]),
    ("random", call "Number" "Random number between low and high."
      [param "low" "Number", param "high" "Number"]),
    ("random_integer", call "Number" "Random integer between low and high, inclusive."
      [param "low" "Number", param "high" "Number"]),
    ("sqrt", call "Number" "Square root."
      [param "value" "Number"])] }),
  ("pokemon", {
    description := some "A Pokémon instance."
    members := [
    ("level", .value { description := some "Current level.", source := some "PokemonFunctions" }
      (some "Number")),
    ("nickname", value "String" "Nickname, or the species name when unset."),
    ("shiny", value "Boolean" "Whether the Pokémon is shiny."),
    ("species", struct "species" "Species of the Pokémon."),
    ("owner", struct "player" "Owning player, when owned."),
    ("stats", .struct { description := some "Calculated battle stats." } none (some [
      ("hp", untold "Number"),
      ("attack", untold "Number"),
      ("defence", untold "Number"),
      ("speed", untold "Number")]))] }),
  ("species", {
    description := some "A Pokémon species."
    members := [
    ("identifier", value "String" "Namespaced identifier, e.g. cobblemon:bulbasaur."),
    ("name", value "String" "Display name."),
    ("primary_type", value "String" "Primary elemental type."),
    ("national_dex", value "Number" "National Pokédex number.")] }),
  ("player", {
    description := some "A server player."
    members := [
    ("username", value "String" "Player name."),
    ("party", struct "party" "The player's party.")] }),
  ("battle", {
    description := some "A Pokémon battle."
    members := [
    ("id", value "String" "Battle UUID."),
    ("is_pvp", value "Boolean" "Whether every side was a player."),
    ("turn", value "Number" "Final turn number.")] }),
  ("party", {
    description := some "A party of up to six Pokémon."
    members := [
    ("size", value "Number" "Number of Pokémon in the party."),
    ("get", lookup "pokemon" "Pokémon in a party slot."
      [{ param "slot" "Number" with description := some "Zero-based slot index." }])] })]

/-- The function sets. -/
def functionSets : Table MemberGroup := [
  ("generalFunctions", {
    description := some "Functions available from every runtime."
    members := [
    ("print", call "Unit" "Prints a message to the server log."
      [param "message" "String"]),
    ("run_command", call "Unit" "Runs a server command."
      [param "command" "String"]),
    ("world_time", value "Number" "Current world time in ticks.")] }),
  ("entityFunctions", {
    description := some "Functions shared by every entity-backed struct."
    members := [
    ("position_x", value "Number" "X coordinate."),
    ("position_y", value "Number" "Y coordinate."),
    ("position_z", value "Number" "Z coordinate."),
    ("is_in_water", value "Boolean" "Whether the entity is in water.")] }),
  ("pokemonFunctions", {
    description := some "Pokémon helpers."
    members := [
    ("has_aspect", call "Boolean" "Whether the Pokémon has an aspect."
      [param "aspect" "String"]),
    ("held_item", value "String" "Identifier of the held item."),
    ("heal", call "Unit" "Fully heals the Pokémon."
      [])] }),
  ("playerFunctions", {
    description := some "Player helpers."
    members := [
    ("tell", call "Unit" "Sends a chat message to the player."
      [param "message" "String", optionalParam "overlay" "Boolean"]),
    ("give_item", call "Unit" "Gives an item stack to the player."
      [param "item" "String", optionalParam "count" "Number"])] })]

/-- The runtimes. -/
def runtimes : Table Runtime := [
  ("event:POKEMON_SENT_OUT", {
    description := some "A Pokémon was sent out of its ball."
    category := some "pokemon"
    query := [
    ("pokemon", struct "pokemon" "The Pokémon sent out."),
    ("player", struct "player" "The player who sent it out.")] }),
  ("event:POKEMON_CAPTURED", {
    description := some "A wild Pokémon was captured."
    category := some "pokemon"
    query := [
    ("pokemon", struct "pokemon" "The captured Pokémon."),
    ("player", struct "player" "The capturing player."),
    ("poke_ball", value "String" "Identifier of the ball used.")] }),
  ("event:LEVEL_UP", {
    description := some "A Pokémon gained a level."
    category := some "pokemon"
    query := [
    ("pokemon", struct "pokemon" "The Pokémon that levelled up."),
    ("old_level", value "Number" "Level before the change."),
    ("new_level", value "Number" "Level after the change.")] }),
  ("event:BATTLE_VICTORY", {
    description := some "A battle ended with a winner."
    category := some "battle"
    query := [
    ("battle", struct "battle" "The finished battle."),
    ("winner", struct "player" "The winning player.")] })]

/-- The compositions. -/
def compositions : Table Composition := [
  ("pokemon", {
    description := some "Pokémon expose entity and Pokémon helpers."
    registries := ["pokemonFunctions", "entityFunctions"]
    customFunctions := [
    ("uuid", value "String" "Pokémon UUID.")] }),
  ("player", {
    description := some "Players expose entity and player helpers."
    registries := ["playerFunctions", "entityFunctions"]
    customFunctions := [
    ("uuid", value "String" "Player UUID.")] })]

end Bundled

/-- The schema that comes with the library. -/
def bundled : Document :=
  { structs := Bundled.structs
    functionSets := Bundled.functionSets
    runtimes := Bundled.runtimes
    compositions := Bundled.compositions }

end MolangAssist.Schema
