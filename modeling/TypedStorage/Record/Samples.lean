/-
Record types to try the library with: a note, a person, a sample that has a field of every type, and a tag
with a counter that its table does not keep.
-/
import TypedStorage.Record.Basic

namespace TypedStorage.Samples

def tableAttribute (name : String) : Attribute := ⟨"table", some [⟨"name", some ("\"" ++ name ++ "\"")⟩]⟩

def keyAttribute : Attribute := ⟨"primary_key", none⟩

def columnAttribute (arguments : List (String × Option String)) : Attribute :=
  ⟨"column", some (arguments.map fun p => ⟨p.1, p.2⟩)⟩

def note : Declaration := ⟨"Note", .namedFields, [tableAttribute "note"], [
  ⟨"id", "String", [keyAttribute]⟩,
  ⟨"title", "String", []⟩,
  ⟨"created_at", "DateTime<Utc>", [columnAttribute [("name", some "\"createdAt\""), ("type", some "\"DATE\"")]]⟩,
  ⟨"pinned", "bool", []⟩,
  ⟨"body", "Option<String>", []⟩]⟩

def person : Declaration := ⟨"Person", .namedFields, [tableAttribute "person"], [
  ⟨"name", "String", []⟩,
  ⟨"id", "i64", [keyAttribute]⟩,
  ⟨"age", "Option<i64>", []⟩]⟩

def sample : Declaration := ⟨"Sample", .namedFields, [tableAttribute "sample"], [
  ⟨"uid", "Uuid", [keyAttribute]⟩,
  ⟨"code", "i32", [columnAttribute [("unique", none)]]⟩,
  ⟨"ratio", "f64", [columnAttribute [("name", some "\"ratio_value\""), ("default", some "1.5")]]⟩,
  ⟨"data", "Option<Vec<u8>>", [columnAttribute [("not_null", none)]]⟩,
  ⟨"meta", "serde_json::Value", []⟩,
  ⟨"label", "Option<String>", [columnAttribute [("type", some "\"VARCHAR(32)\""), ("default", some "\"it's\"")]]⟩,
  ⟨"seen", "Option<DateTime<Utc>>", []⟩,
  ⟨"parent", "Option<Uuid>", []⟩,
  ⟨"active", "bool", [columnAttribute [("type", some "\"int\""), ("default", some "false")]]⟩,
  ⟨"extra", "Option<serde_json::Value>", []⟩,
  ⟨"score", "Option<f64>", []⟩,
  ⟨"cached", "Vec<String>", [columnAttribute [("skip", none)]]⟩]⟩

def tag : Declaration := ⟨"Tag", .namedFields, [tableAttribute "tag"], [
  ⟨"name", "String", [keyAttribute, columnAttribute [("name", some "\"tag_name\"")]]⟩,
  ⟨"hits", "u64", [columnAttribute [("skip", none)]]⟩]⟩

def all : List Declaration := [note, person, sample, tag]

end TypedStorage.Samples
