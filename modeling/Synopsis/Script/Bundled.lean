import Synopsis.Dialect

/-!
# Bundled script templates

The templates that are installed unless a project brings its own. Each uses the standard keys of
its dialect.
-/

namespace Synopsis.Script

/-- The bash script. -/
def bashTemplate : Text := Text.ofLines
  ["# Bash completion for git-remote-gcrypt",
   "# Install to: /etc/bash_completion.d/ or ~/.local/share/bash-completion/completions/",
   "",
   "_git_remote_gcrypt() \x7b",
   "\tlocal cur prev opts commands",
   "\tCOMPREPLY=()",
   "\tcur=\"$\x7bCOMP_WORDS[COMP_CWORD]\x7d\"",
   "\tprev=\"$\x7bCOMP_WORDS[COMP_CWORD - 1]\x7d\"",
   "\topts=\"-h --help -v --version --check\"",
   "\tcommands=\"\x7bcommands\x7d\"",
   "",
   "\t# 1. First argument: complete commands and global options",
   "\tif [[ $COMP_CWORD -eq 1 ]]; then",
   "\t\tCOMPREPLY=($(compgen -W \"$commands $opts\" -- \"$cur\"))",
   "\t\tif [[ \"$cur\" == gcrypt::* ]]; then",
   "\t\t\tCOMPREPLY+=(\"$cur\")",
   "\t\tfi",
   "\t\treturn 0",
   "\tfi",
   "",
   "\t# 2. Handle subcommands",
   "\tcase \"$\x7bCOMP_WORDS[1]\x7d\" in",
   "\t\tclean)",
   "\t\t\tlocal remotes=$(git remote -v 2>/dev/null | grep 'gcrypt::' | awk '\x7bprint $1\x7d' | sort -u || :)",
   "\t\t\tCOMPREPLY=($(compgen -W \"\x7bclean_flags\x7d -h --help $remotes\" -- \"$cur\"))",
   "\t\t\treturn 0",
   "\t\t\t;;",
   "\t\tcheck|--check)",
   "\t\t\tCOMPREPLY=($(compgen -f -- \"$cur\"))",
   "\t\t\treturn 0",
   "\t\t\t;;",
   "\t\tcapabilities|fetch|list|push)",
   "\t\t\tCOMPREPLY=($(compgen -W \"-h --help\" -- \"$cur\"))",
   "\t\t\treturn 0",
   "\t\t\t;;",
   "\tesac",
   "",
   "\t# 3. Fallback to global flags",
   "\tif [[ \"$cur\" == -* ]]; then",
   "\t\tCOMPREPLY=($(compgen -W \"$opts\" -- \"$cur\"))",
   "\t\treturn 0",
   "\tfi",
   "\x7d",
   "",
   "complete -F _git_remote_gcrypt git-remote-gcrypt"]

/-- The zsh script. -/
def zshTemplate : Text := Text.ofLines
  ["#compdef git-remote-gcrypt",
   "# Zsh completion for git-remote-gcrypt",
   "# Install to: ~/.zsh/completions/ or /usr/share/zsh/site-functions/",
   "",
   "_git_remote_gcrypt() \x7b",
   "\tlocal -a args",
   "\targs=(",
   "\t\t'(- *)'\x7b-h,--help\x7d'[show help message]'",
   "\t\t'(- *)'\x7b-v,--version\x7d'[show version information]'",
   "\t\t'--check[check if URL is a gcrypt repository]:URL:_files'",
   "\t\t'1:command:(\x7bcommands\x7d)'",
   "\t\t'*::subcommand arguments:->args'",
   "\t)",
   "\t_arguments -s -S $args",
   "",
   "\tcase $words[1] in",
   "\tclean)",
   "\t\t_arguments \\",
   "\t\t\t\x7bclean_flags\x7d \\",
   "\t\t\t'*:gcrypt URL: _alternative \"remotes:gcrypt remote:($(git remote -v 2>/dev/null | grep \"gcrypt::\" | awk \"\x7bprint \\$1\x7d\" | sort -u))\" \"files:file:_files\"'",
   "\t\t;;",
   "\tcheck)",
   "\t\t_arguments \\",
   "\t\t\t'1:gcrypt URL:_files'",
   "\t\t;;",
   "\t*)",
   "\t\t_arguments \\",
   "\t\t\t'*:gcrypt URL:'",
   "\t\t;;",
   "\tesac",
   "\x7d",
   "",
   "_git_remote_gcrypt \"$@\""]

/-- The fish script. -/
def fishTemplate : Text := Text.ofLines
  ["# Fish completion for git-remote-gcrypt",
   "# Install to: ~/.config/fish/completions/",
   "",
   "complete -c git-remote-gcrypt -s h -l help -d 'Show help message'",
   "complete -c git-remote-gcrypt -s v -l version -d 'Show version information'",
   "complete -c git-remote-gcrypt -l check -d '(Legacy) Check if URL is a gcrypt repository' -r -F",
   "",
   "# Subcommands",
   "complete -c git-remote-gcrypt -f -n \"not __fish_seen_subcommand_from \x7bnot_sc_list\x7d\" -a 'check' -d 'Check if URL is a gcrypt repository'",
   "complete -c git-remote-gcrypt -f -n \"not __fish_seen_subcommand_from \x7bnot_sc_list\x7d\" -a 'clean' -d 'Scan/Clean unencrypted files from remote'",
   "complete -c git-remote-gcrypt -n \"__fish_seen_subcommand_from clean check\" -a \"(git remote -v 2>/dev/null | grep 'gcrypt::' | awk '\x7bprint \\$1\x7d' | sort -u)\" -d 'Gcrypt Remote'",
   "",
   "# Clean flags",
   "\x7bclean_flags\x7d",
   "",
   "# Git protocol commands",
   "complete -c git-remote-gcrypt -f -n \"not __fish_seen_subcommand_from \x7bnot_sc_list\x7d\" -a 'capabilities' -d 'Show git remote helper capabilities'",
   "complete -c git-remote-gcrypt -f -n \"not __fish_seen_subcommand_from \x7bnot_sc_list\x7d\" -a 'list' -d 'List refs in remote repository'",
   "complete -c git-remote-gcrypt -f -n \"not __fish_seen_subcommand_from \x7bnot_sc_list\x7d\" -a 'push' -d 'Push refs to remote repository'",
   "complete -c git-remote-gcrypt -f -n \"not __fish_seen_subcommand_from \x7bnot_sc_list\x7d\" -a 'fetch' -d 'Fetch refs from remote repository'"]

/-- The bundled template of a dialect. -/
def bundledTemplate : Dialect → Text
  | .bash => bashTemplate
  | .zsh => zshTemplate
  | .fish => fishTemplate

end Synopsis.Script
