import Synopsis.Text.Basic

/-!
# Bundled section templates

The texts of the two sections that a README is given unless a project brings its own. The first
ends in the literal that closes its section, the second before the one that closes its section.
-/

namespace Synopsis.Readme

/-- How to detect an encrypted repository. -/
def detectTemplate : Text := Text.ofLines
  ["Detecting gcrypt repos",
   "======================",
   "",
   "To detect if a git url is a gcrypt repo, use::",
   "",
   "    git-remote-gcrypt check url",
   "",
   "(Legacy syntax ``--check`` is also supported).",
   ""]
  ++ "Exit status is 0"

/-- How to clean an encrypted repository. -/
def cleanTemplate : Text := Text.ofLines
  ["Cleaning gcrypt repos",
   "=====================",
   "",
   "To scan for unencrypted files in a remote gcrypt repo, use::",
   "",
   "    git-remote-gcrypt clean [url|remote]",
   "",
   "If no URL or remote is specified, ``git-remote-gcrypt`` will list all",
   "available ``gcrypt::`` remotes.",
   "",
   "By default, this command only performs a scan. To actually remove the",
   "unencrypted files, you must use the ``--force`` (or ``-f``) flag::",
   "",
   "    git-remote-gcrypt clean url --force",
   ""]

/-- The bundled section templates in the order of the sections. -/
def bundledTemplates : List Text := [detectTemplate, cleanTemplate]

end Synopsis.Readme
