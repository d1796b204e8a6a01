import PolicyEditing.Settings.Basic
import PolicyEditing.UriMap

/-!
# The settings that are known

The settings that were fetched for single documents, and those that hold for all documents.
-/

namespace PolicyEditing

/-- The settings of single documents, and those shared by all. -/
structure SettingsStore where
  cached : UriMap Settings
  shared : Settings

namespace SettingsStore

/-- A store that knows nothing: every document has the defaults. -/
def empty : SettingsStore := ⟨.empty, .default⟩

/-- The settings that were fetched for a document. -/
def cached? (store : SettingsStore) (uri : Uri) : Option Settings :=
  store.cached.get? uri

def remember (store : SettingsStore) (uri : Uri) (settings : Settings) : SettingsStore :=
  { store with cached := store.cached.insert uri settings }

def forget (store : SettingsStore) (uri : Uri) : SettingsStore :=
  { store with cached := store.cached.erase uri }

def clear (store : SettingsStore) : SettingsStore :=
  { store with cached := .empty }

def share (store : SettingsStore) (settings : Settings) : SettingsStore :=
  { store with shared := settings }

end SettingsStore

end PolicyEditing
