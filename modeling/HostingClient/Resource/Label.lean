import HostingClient.Dict

/-! # Labels

The names under which the platform shows its keys. Keys are compared without regard to the case of ASCII letters,
engine keys exactly; a key that is not in the table is shown as it is. -/

namespace HostingClient.Label

/-- A table of labels. -/
structure Table where
  labels : List (String × String)
  anyCase : Bool

/-- The label of a key. -/
def Table.label (t : Table) (key : String) : String :=
  (t.labels.lookup (if t.anyCase then String.ofList (key.toList.map Char.toLower) else key)).getD key

/-- Categories of spaces. -/
def category : Table where
  anyCase := true
  labels := [
    ("minecraft_plugin", "Minecraft Plugin"), ("minecraft_server", "Minecraft Server"),
    ("minecraft_mod", "Minecraft Mod"), ("hytale_plugin", "Hytale Plugin"), ("web_app", "Web App"),
    ("mobile_app", "Mobile App"), ("other", "Other")]

/-- Links of spaces. -/
def link : Table where
  anyCase := true
  labels := [
    ("source_code", "Source Code"), ("documentation", "Documentation"), ("wiki", "Wiki"), ("discord", "Discord"),
    ("website", "Website"), ("issues", "Issues")]

/-- Platforms of versions. -/
def platform : Table where
  anyCase := true
  labels := [
    ("bukkit", "Bukkit"), ("spigot", "Spigot"), ("paper", "Paper"), ("purpur", "Purpur"), ("folia", "Folia"),
    ("bungeecord", "BungeeCord"), ("waterfall", "Waterfall"), ("velocity", "Velocity"), ("fabric", "Fabric"),
    ("forge", "Forge"), ("quilt", "Quilt"), ("liteloader", "LiteLoader"), ("hytale_plugin", "Hytale Plugin"),
    ("executable", "Executable")]

/-- Engines of collections. -/
def engine : Table where
  anyCase := false
  labels := [
    ("kv", "Key-Value Store"), ("document", "Document Store"), ("object", "Object Store"),
    ("analytical", "Analytical Store"), ("broker", "Message Broker"), ("", "Unknown")]

end HostingClient.Label
