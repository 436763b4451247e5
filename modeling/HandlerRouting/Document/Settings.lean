import HandlerRouting.Document.Content
import HandlerRouting.Settings

/-!
Settings that are kept in documents, as `ResolverConfig.from_yaml` reads them. What loads a document
is a parameter here. `Content.read`, and all that it rests on in `Document`, stands for the loader
in use; it makes documents readable, and no theorem speaks of it.
-/

namespace HandlerRouting.Document

inductive Failure where
  | fault (fault : Fault)
  | notMapping (message : String)
  | settings (failure : Settings.Failure)

def settingsBy (load : List Char → Except Fault Datum) (path text : String) :
    Except Failure Settings :=
  match load text.toList with
  | .error fault => .error (.fault fault)
  | .ok data =>
    match data with
    | .null | .record _ => (Settings.ofDatum data).mapError .settings
    | other => .error (.notMapping ("Expected a mapping in " ++ path ++ ", got " ++ other.kind))

def settings (path text : String) : Except Failure Settings := settingsBy Content.read path text

end HandlerRouting.Document
