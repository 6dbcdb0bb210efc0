/-
# CodeRetrieval.Settings.Template — a settings file to start from.

The template sets every setting that is likely to be changed to its standard value and shows the others
as comments, so that reading it gives the standard settings.
-/
import CodeRetrieval.Text.Basic

namespace CodeRetrieval.Settings

/-- The lines of the template. -/
def templateLines : List String :=
  ["# sift configuration",
   "",
   "[chunking]",
   "max_chars = 2000",
   "coalesce = 80",
   "# fallback line windows for files without a grammar",
   "naive_line_count = 50",
   "naive_overlap = 0",
   "",
   "[walker]",
   "min_file_bytes = 10",
   "max_file_bytes = 240000",
   "# directories holding more files than this are treated as generated",
   "max_dir_files = 240",
   "max_avg_line_length = 200",
   "# skip_patterns = [\"**/fixtures/**\", \"*.generated.ts\"]",
   "",
   "[embedding]",
   "provider = \"openai\"  # OpenAI-compatible API; use base_url for other servers",
   "model = \"text-embedding-3-small\"",
   "# api_key = \"sk-...\"  # or SIFT_EMBEDDING_API_KEY / OPENAI_API_KEY",
   "# base_url = \"http://localhost:11434/v1\"",
   "batch_size = 64",
   "concurrency = 4",
   "max_retries = 5",
   "query_token_limit = 8191",
   "",
   "[lexical]",
   "k1 = 1.2",
   "b = 0.75",
   "",
   "[ranking]",
   "top_k = 10",
   "default_vector_score = 0.04",
   "vector_weight = 3.5",
   "vector_only_factor = 0.02"]

/-- The template, each line with its line feed. -/
def template : Text := templateLines.flatMap fun line => Text.ofString line ++ ['\n']

end CodeRetrieval.Settings
